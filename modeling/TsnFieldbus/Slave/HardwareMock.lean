import TsnFieldbus.Common.L2Utils
import TsnFieldbus.Foundations.BitField
import TsnFieldbus.Foundations.CheckedAccess
import TsnFieldbus.Slave.DeviceStatus

/-!
# The Slave's Process Image

`read_outputs` and `write_inputs` of `DummyHardware`, which pack variables of any number of
bits at any bit offset. Every index, slice and plain addition is checked: `none` is a panic.
The locks around the images are poisoned by a panic only, and their second branch is left out.

- `readBits_filled`, `writeBits_filled`: what the loops over the bits do.
- `readOutputs_eq`, `writeInputs_eq`: the functions are their range checks and these loops.
- `image_access`: failures, bits and copies together.
-/

namespace TsnFieldbus

open Foundations DeviceStatusStore

/-- The process images of `DummyHardware`. -/
structure DummyHardware where
  inputImage : List UInt8
  outputImage : List UInt8
deriving DecidableEq, Repr

namespace DummyHardware

/-- `+` of `u32`, which must not overflow. -/
def addU32 (a b : UInt32) : Option UInt32 :=
  panicsIf (2 ^ 32 ≤ a.toNat + b.toNat) (a + b)

/-- `1u8 << (bit % 8)`. -/
def bitMask (bit : UInt32) : UInt8 := 1 <<< (bit % 8).toUInt8

/-- The body of the loop of `read_outputs`. -/
def readBit (image : List UInt8) (offset : ℕ) (bitOffset : UInt32) (out : List UInt8)
    (i : UInt32) : Option (List UInt8) := do
  let srcBit ← addU32 bitOffset i
  let source ← image[offset + (srcBit / 8).toNat]?
  let dstByte := (i / 8).toNat
  if source &&& bitMask srcBit ≠ 0 then do
    let target ← out[dstByte]?
    some (out.set dstByte (target ||| bitMask i))
  else some out

/-- The loop of `read_outputs`. -/
def readBits (image : List UInt8) (position : Position) : Option (List UInt8) :=
  (List.range position.bitLen.toNat).foldlM
    (fun out i => readBit image position.byteOffset.toNat position.bitOffset out (.ofNat i))
    (List.replicate (bitLenToByteLen position.bitLen) 0)

/-- The body of the loop of `write_inputs`. -/
def writeBit (data : List UInt8) (offset : ℕ) (bitOffset : UInt32) (image : List UInt8)
    (i : UInt32) : Option (List UInt8) := do
  let source ← data[(i / 8).toNat]?
  let dstBit ← addU32 bitOffset i
  let index := offset + (dstBit / 8).toNat
  let target ← image[index]?
  if source &&& bitMask i ≠ 0 then some (image.set index (target ||| bitMask dstBit))
  else some (image.set index (target &&& ~~~ bitMask dstBit))

/-- The loop of `write_inputs`. -/
def writeBits (data : List UInt8) (image : List UInt8) (position : Position) :
    Option (List UInt8) :=
  (List.range position.bitLen.toNat).foldlM
    (fun image i =>
      writeBit data position.byteOffset.toNat position.bitOffset image (.ofNat i)) image

/-- `end` in both functions: the first byte behind the span. -/
def spanEnd (position : Position) : ℕ :=
  position.byteOffset.toNat +
    bitLenToByteLen (saturatingAddU32 position.bitOffset position.bitLen)

/-- `read_outputs`. -/
def readOutputs (hardware : DummyHardware) (position : Position) :
    Option (Except StatusCode (List UInt8)) :=
  let offset := position.byteOffset.toNat
  if offset ≥ hardware.outputImage.length ∨ spanEnd position > hardware.outputImage.length then
    some (.error .errInvalidLen)
  else if position.bitOffset = 0 ∧ position.bitLen % 8 = 0 then
    (checkedSlice hardware.outputImage offset (spanEnd position)).map .ok
  else (readBits hardware.outputImage position).map .ok

/-- `write_inputs`. -/
def writeInputs (hardware : DummyHardware) (data : List UInt8) (position : Position) :
    Option (Except StatusCode Unit × DummyHardware) :=
  let fieldByteLen := bitLenToByteLen position.bitLen
  let offset := position.byteOffset.toNat
  if offset ≥ hardware.inputImage.length ∨ spanEnd position > hardware.inputImage.length ∨
      fieldByteLen ≠ data.length then
    some (.error .errInvalidLen, hardware)
  else if position.bitOffset = 0 ∧ position.bitLen % 8 = 0 then do
    let source ← checkedSlice data 0 fieldByteLen
    let image ← checkedOverwrite hardware.inputImage offset (spanEnd position) source
    some (.ok (), { hardware with inputImage := image })
  else do
    let image ← writeBits data hardware.inputImage position
    some (.ok (), { hardware with inputImage := image })

end DummyHardware

/-! ## Positions -/

/-- The first bit of the position in the image. -/
def Position.start (position : Position) : ℕ :=
  8 * position.byteOffset.toNat + position.bitOffset.toNat

/-- The position lies in an image of this length. -/
def Position.Within (position : Position) (length : ℕ) : Prop :=
  position.byteOffset.toNat < length ∧
    position.byteOffset.toNat + (position.bitOffset.toNat + position.bitLen.toNat + 7) / 8 ≤ length

instance (position : Position) (length : ℕ) : Decidable (position.Within length) :=
  inferInstanceAs (Decidable (_ ∧ _))

namespace DummyHardware

/-- In an image below `2 ^ 29` bytes the saturation of the sum is as good as the sum. -/
theorem within_iff_spanEnd {position : Position} {length : ℕ} (hlen : length < 2 ^ 29) :
    position.Within length ↔
      ¬ (position.byteOffset.toNat ≥ length ∨ spanEnd position > length) := by
  have hspan := toNat_saturatingAddU32 position.bitOffset position.bitLen
  unfold Position.Within spanEnd bitLenToByteLen
  omega

/-- A position in such an image has its span in 32 bits. -/
theorem spanEnd_of_within {position : Position} {length : ℕ} (hlen : length < 2 ^ 29)
    (h : position.Within length) :
    position.bitOffset.toNat + position.bitLen.toNat < 2 ^ 32 ∧
      spanEnd position = position.byteOffset.toNat +
        (position.bitOffset.toNat + position.bitLen.toNat + 7) / 8 := by
  have hspan := toNat_saturatingAddU32 position.bitOffset position.bitLen
  unfold Position.Within at h
  unfold spanEnd bitLenToByteLen
  omega

theorem addU32_eq {a b : UInt32} (h : a.toNat + b.toNat < 2 ^ 32) :
    ∃ sum, addU32 a b = some sum ∧ sum.toNat = a.toNat + b.toNat := by
  refine ⟨a + b, panicsIf_neg (not_le.mpr h), ?_⟩
  rw [UInt32.toNat_add, Nat.mod_eq_of_lt h]

theorem toNat_shift (bit : UInt32) : (bit % 8).toUInt8.toNat = bit.toNat % 8 := by
  rw [UInt32.toNat_toUInt8, UInt32.toNat_mod]
  change bit.toNat % 8 % 256 = _
  omega

theorem toNat_byteIndex (bit : UInt32) : (bit / 8).toNat = bit.toNat / 8 := by
  rw [UInt32.toNat_div]
  rfl

theorem toNat_ofNat_index {i : ℕ} {n : UInt32} (h : i < n.toNat) : (UInt32.ofNat i).toNat = i :=
  UInt32.toNat_ofNat_of_lt' (h.trans n.toNat_lt)

/-- The bit of the image that a pass of either loop addresses, and the byte it is in. -/
theorem addressed_bit {position : Position} {length i : ℕ} (hlen : length < 2 ^ 29)
    (h : position.Within length) (hi : i < position.bitLen.toNat) :
    ∃ bit, addU32 position.bitOffset (.ofNat i) = some bit ∧
      (position.start + i) / 8 = position.byteOffset.toNat + bit.toNat / 8 ∧
      (bit % 8).toUInt8.toNat = (position.start + i) % 8 ∧
      position.byteOffset.toNat + bit.toNat / 8 < length := by
  obtain ⟨hfits, -⟩ := spanEnd_of_within hlen h
  have hindex := toNat_ofNat_index hi
  obtain ⟨bit, hsum, hbit⟩ := @addU32_eq position.bitOffset (.ofNat i) (by omega)
  refine ⟨bit, hsum, ?_, ?_, ?_⟩
  · unfold Position.start
    omega
  · rw [toNat_shift, Position.start]
    omega
  · unfold Position.Within at h
    omega

/-! ## The loops -/

/-- The loop of `read_outputs` copies the field to the front of the zeroed bytes. -/
theorem readBits_filled {image : List UInt8} {position : Position} (hlen : image.length < 2 ^ 29)
    (h : position.Within image.length) :
    ∃ out, readBits image position = some out ∧
      FieldFilled (fun i => bitAt image (position.start + i)) 0 position.bitLen.toNat
        (List.replicate (bitLenToByteLen position.bitLen) 0) out := by
  apply foldlM_range_bitAt
  intro i hi out hout hlater
  have hindex := toNat_ofNat_index hi
  obtain ⟨srcBit, hsum, hbyte, hshift, hinside⟩ := addressed_bit hlen h hi
  have htest := and_mask_ne_zero_iff_bitAt hbyte hinside hshift
  -- the bit has a byte in the buffer that is read into
  have hroom : i / 8 < out.length := by
    rw [hout, List.length_replicate, bitLenToByteLen]
    omega
  simp only [readBit, hsum, Option.bind_eq_bind, Option.bind_some, toNat_byteIndex, hindex,
    List.getElem?_eq_getElem hinside, List.getElem?_eq_getElem hroom, bitMask, Nat.zero_add]
  -- a set bit is copied, a clear one is clear from the start
  by_cases hbit : bitAt image (position.start + i) = true
  · rw [if_pos (htest.mpr hbit)]
    refine ⟨_, rfl, List.length_set, ?_⟩
    intro k
    rw [bitAt_set_or rfl hroom (by rw [toNat_shift, hindex]), hbit]
  · rw [if_neg (mt htest.mp hbit)]
    refine ⟨_, rfl, rfl, ?_⟩
    intro k
    by_cases hk : k = i
    · subst hk
      rw [if_pos rfl, hlater k (by omega), bitAt_replicate_zero, eq_false_of_ne_true hbit]
    · rw [if_neg hk]

/-- The loop of `write_inputs` copies the data to the field. -/
theorem writeBits_filled {data image : List UInt8} {position : Position}
    (hlen : image.length < 2 ^ 29) (h : position.Within image.length)
    (hdata : data.length = bitLenToByteLen position.bitLen) :
    ∃ next, writeBits data image position = some next ∧
      FieldFilled (bitAt data) position.start position.bitLen.toNat image next := by
  apply foldlM_range_bitAt
  intro i hi bytes hbytes _
  have hindex := toNat_ofNat_index hi
  obtain ⟨dstBit, hsum, hbyte, hshift, hinside⟩ := addressed_bit hlen h hi
  rw [← hbytes] at hinside
  have hsource : i / 8 < data.length := by
    rw [hdata, bitLenToByteLen]
    omega
  -- the data is read from its first bit on
  have htest := @and_mask_ne_zero_iff_bitAt data i _ rfl hsource (UInt32.ofNat i % 8).toUInt8
    (by rw [toNat_shift, hindex])
  simp only [writeBit, hsum, Option.bind_eq_bind, Option.bind_some, toNat_byteIndex, hindex,
    List.getElem?_eq_getElem hinside, List.getElem?_eq_getElem hsource, bitMask]
  -- here a clear bit is written too, over what the image had
  by_cases hbit : bitAt data i = true
  · rw [if_pos (htest.mpr hbit)]
    refine ⟨_, rfl, List.length_set, ?_⟩
    intro k
    rw [bitAt_set_or hbyte hinside hshift, hbit]
  · rw [if_neg (mt htest.mp hbit)]
    refine ⟨_, rfl, List.length_set, ?_⟩
    intro k
    rw [bitAt_set_and_not hbyte hinside hshift, eq_false_of_ne_true hbit]

/-! ## The fast paths -/

/-- A field that begins and ends at bytes. -/
theorem aligned_iff {position : Position} :
    position.bitOffset = 0 ∧ position.bitLen % 8 = 0 ↔
      position.bitOffset.toNat = 0 ∧ 8 ∣ position.bitLen.toNat := by
  rw [← UInt32.toNat_inj, ← UInt32.toNat_inj, UInt32.toNat_mod, Nat.dvd_iff_mod_eq_zero]
  rfl

/-- The slice of the fast path is what the loop reads. -/
theorem checkedSlice_eq_readBits {image : List UInt8} {position : Position}
    (hlen : image.length < 2 ^ 29) (h : position.Within image.length)
    (haligned : position.bitOffset.toNat = 0 ∧ 8 ∣ position.bitLen.toNat) :
    checkedSlice image position.byteOffset.toNat (spanEnd position) =
      readBits image position := by
  obtain ⟨hzero, hwhole⟩ := haligned
  obtain ⟨hfits, hend⟩ := spanEnd_of_within hlen h
  obtain ⟨out, hread, hsize, hbits⟩ := readBits_filled hlen h
  rw [List.length_replicate] at hsize
  have hfield : spanEnd position - position.byteOffset.toNat = position.bitLen.toNat / 8 := by
    omega
  unfold Position.Within at h
  rw [hread, checkedSlice_eq (by omega) (by omega), hfield, Option.some.injEq]
  -- the slice has the same bits, one by one
  apply ext_of_bitAt
  · rw [hsize, List.length_take, List.length_drop, bitLenToByteLen]
    omega
  · intro k _
    rw [bitAt_slice, hbits, Position.start, hzero, bitAt_replicate_zero]
    have hcond : k < 8 * (position.bitLen.toNat / 8) ↔
        0 ≤ k ∧ k < 0 + position.bitLen.toNat := by omega
    simp only [hcond, Nat.add_zero, Nat.sub_zero]

/-- The copy of the fast path is what the loop writes. -/
theorem checkedOverwrite_eq_writeBits {data image : List UInt8} {position : Position}
    (hlen : image.length < 2 ^ 29) (h : position.Within image.length)
    (hdata : data.length = bitLenToByteLen position.bitLen)
    (haligned : position.bitOffset.toNat = 0 ∧ 8 ∣ position.bitLen.toNat) :
    checkedOverwrite image position.byteOffset.toNat (spanEnd position) data =
      writeBits data image position := by
  obtain ⟨hzero, hwhole⟩ := haligned
  obtain ⟨hfits, hend⟩ := spanEnd_of_within hlen h
  obtain ⟨next, hwrite, hsize, hbits⟩ := writeBits_filled hlen h hdata
  rw [bitLenToByteLen] at hdata
  have hstop : spanEnd position = position.byteOffset.toNat + data.length := by omega
  unfold Position.Within at h
  rw [hwrite, checkedOverwrite_eq (by omega) (by omega) (by omega), hstop, Option.some.injEq]
  -- two images are equal if all their bits are
  apply ext_of_bitAt
  · simp only [List.length_append, List.length_take, List.length_drop, hsize]
    omega
  · intro k _
    rw [bitAt_overwrite (by omega), hbits, Position.start, hzero, Nat.add_zero]
    have hcond : 8 * position.byteOffset.toNat ≤ k ∧
        k < 8 * position.byteOffset.toNat + 8 * data.length ↔
        8 * position.byteOffset.toNat ≤ k ∧
          k < 8 * position.byteOffset.toNat + position.bitLen.toNat := by omega
    simp only [hcond]

/-! ## The functions -/

/-- Inside the image `read_outputs` is its loop, on either path. -/
theorem readOutputs_eq {hardware : DummyHardware} {position : Position}
    (hlen : hardware.outputImage.length < 2 ^ 29)
    (h : position.Within hardware.outputImage.length) :
    hardware.readOutputs position = (readBits hardware.outputImage position).map .ok := by
  unfold readOutputs
  rw [if_neg ((within_iff_spanEnd hlen).mp h)]
  split
  · rename_i haligned
    rw [checkedSlice_eq_readBits hlen h (aligned_iff.mp haligned)]
  · rfl

/-- Inside the image, and with data of the right length, so is `write_inputs`. -/
theorem writeInputs_eq {hardware : DummyHardware} {data : List UInt8} {position : Position}
    (hlen : hardware.inputImage.length < 2 ^ 29)
    (h : position.Within hardware.inputImage.length)
    (hdata : data.length = bitLenToByteLen position.bitLen) :
    hardware.writeInputs data position =
      (writeBits data hardware.inputImage position).map
        (fun image => (.ok (), { hardware with inputImage := image })) := by
  have hinside := (within_iff_spanEnd hlen).mp h
  -- within the image the three checks pass
  have hchecks : ¬ (position.byteOffset.toNat ≥ hardware.inputImage.length ∨
      spanEnd position > hardware.inputImage.length ∨
      bitLenToByteLen position.bitLen ≠ data.length) := by
    rw [← or_assoc, not_or, not_not]
    exact ⟨hinside, hdata.symm⟩
  unfold writeInputs
  rw [if_neg hchecks]
  split
  · rename_i haligned
    -- the data is as long as the field, so whole bytes take all of it
    have hslice : checkedSlice data 0 (bitLenToByteLen position.bitLen) = some data := by
      rw [checkedSlice_take hdata.ge, ← hdata, List.take_length]
    rw [← checkedOverwrite_eq_writeBits hlen h hdata (aligned_iff.mp haligned), hslice,
      Option.bind_eq_bind, Option.bind_some]
    cases checkedOverwrite hardware.inputImage position.byteOffset.toNat (spanEnd position)
      data <;> rfl
  · cases writeBits data hardware.inputImage position <;> rfl

/-- What reading a position of the output image does. -/
structure ReadsOutputs (hardware : DummyHardware) (position : Position) : Prop where
  refused : ¬ position.Within hardware.outputImage.length →
    hardware.readOutputs position = some (.error .errInvalidLen)
  /-- The bits of the field, then zeros; the loop gives the same on either path. -/
  read : position.Within hardware.outputImage.length →
    ∃ bytes, hardware.readOutputs position = some (.ok bytes) ∧
      readBits hardware.outputImage position = some bytes ∧
      bytes.length = bitLenToByteLen position.bitLen ∧
      ∀ k, bitAt bytes k =
        if k < position.bitLen.toNat then bitAt hardware.outputImage (position.start + k) else false

/-- What writing to a position of the input image does. -/
structure WritesInputs (hardware : DummyHardware) (data : List UInt8) (position : Position) :
    Prop where
  refused : ¬ (position.Within hardware.inputImage.length ∧
      data.length = bitLenToByteLen position.bitLen) →
    hardware.writeInputs data position = some (.error .errInvalidLen, hardware)
  /-- The bits of the field are those of the data, all others as before. -/
  written : position.Within hardware.inputImage.length →
    data.length = bitLenToByteLen position.bitLen →
    ∃ image, hardware.writeInputs data position =
        some (.ok (), { hardware with inputImage := image }) ∧
      writeBits data hardware.inputImage position = some image ∧
      FieldFilled (bitAt data) position.start position.bitLen.toNat hardware.inputImage image

theorem readsOutputs {hardware : DummyHardware} (position : Position)
    (hlen : hardware.outputImage.length < 2 ^ 29) : hardware.ReadsOutputs position where
  refused := fun hout => if_pos (not_not.mp (mt (within_iff_spanEnd hlen).mpr hout))
  read := by
    intro h
    obtain ⟨bytes, hread, hsize, hbits⟩ := readBits_filled hlen h
    refine ⟨bytes, ?_, hread, ?_, ?_⟩
    · rw [readOutputs_eq hlen h, hread, Option.map_some]
    · rw [hsize, List.length_replicate]
    · intro k
      rw [hbits, bitAt_replicate_zero]
      simp only [Nat.zero_le, true_and, Nat.zero_add, Nat.sub_zero]

theorem writesInputs {hardware : DummyHardware} (data : List UInt8) (position : Position)
    (hlen : hardware.inputImage.length < 2 ^ 29) : hardware.WritesInputs data position where
  refused := by
    intro hout
    apply if_pos
    rw [within_iff_spanEnd hlen] at hout
    tauto
  written := by
    intro h hdata
    obtain ⟨image, hwrite, hfilled⟩ := writeBits_filled hlen h hdata
    refine ⟨image, ?_, hwrite, hfilled⟩
    rw [writeInputs_eq hlen h hdata, hwrite, Option.map_some]

/-- **Process images are bit-exact.** Reads and writes fail exactly outside the image or with
data of the wrong length, and otherwise copy exactly the field; a field read on one device and
written to a field of the same length on another arrives bit by bit. -/
theorem image_access (hardware other : DummyHardware)
    (hout : hardware.outputImage.length < 2 ^ 29) (hin : other.inputImage.length < 2 ^ 29) :
    (∀ position, hardware.ReadsOutputs position) ∧
    (∀ data position, other.WritesInputs data position) ∧
    (∀ source target : Position, target.bitLen = source.bitLen →
      source.Within hardware.outputImage.length → target.Within other.inputImage.length →
      ∃ bytes image, hardware.readOutputs source = some (.ok bytes) ∧
        other.writeInputs bytes target = some (.ok (), { other with inputImage := image }) ∧
        FieldFilled (fun i => bitAt hardware.outputImage (source.start + i)) target.start
          target.bitLen.toNat other.inputImage image) := by
  refine ⟨fun position => readsOutputs position hout,
    fun data position => writesInputs data position hin, ?_⟩
  intro source target hbits hsource htarget
  obtain ⟨bytes, hread, -, hsize, hcopied⟩ := (readsOutputs source hout).read hsource
  rw [← hbits] at hsize
  obtain ⟨image, hwrite, -, hlen, hfield⟩ :=
    (writesInputs bytes target hin).written htarget hsize
  refine ⟨bytes, image, hread, hwrite, hlen, ?_⟩
  intro k
  rw [hfield]
  -- only bits of the field are read from the bytes
  split
  · rw [hcopied, ← hbits, if_pos (by omega)]
  · rfl

/-- A device with two bytes in each image. -/
def sampleHardware : DummyHardware :=
  { inputImage := [0xFF, 0x00]
    outputImage := [0xB4, 0x5A] }

theorem image_access_sample :
    (∀ position, sampleHardware.ReadsOutputs position) ∧
    (∀ data position, sampleHardware.WritesInputs data position) ∧
    (∀ source target : Position, target.bitLen = source.bitLen →
      source.Within sampleHardware.outputImage.length →
      target.Within sampleHardware.inputImage.length →
      ∃ bytes image, sampleHardware.readOutputs source = some (.ok bytes) ∧
        sampleHardware.writeInputs bytes target =
          some (.ok (), { sampleHardware with inputImage := image }) ∧
        FieldFilled (fun i => bitAt sampleHardware.outputImage (source.start + i)) target.start
          target.bitLen.toNat sampleHardware.inputImage image) :=
  image_access sampleHardware sampleHardware (by decide) (by decide)

example : sampleHardware.readOutputs ⟨0, 6, 5⟩ = some (.ok [0x0A]) := by decide

example : sampleHardware.writeInputs [0x0A] ⟨0, 6, 5⟩ =
    some (.ok (), { sampleHardware with inputImage := [0xBF, 0x02] }) := by decide

end DummyHardware

end TsnFieldbus
