import TsnFieldbus.Common.DiscoveryTypes
import TsnFieldbus.Slave.HardwareMock

/-!
# The Master's Process Image

`read_outputs` and `write_inputs` of `MasterProcessImage`, which copy whole bytes, and the
positions at which they and those of `DummyHardware` are the same access.

- `agreesAt_of_aligned`: whole bytes are the same to both.
- `agreesAt_iff`: nothing else is.
-/

namespace TsnFieldbus

open Foundations

/-- The process images of `MasterProcessImage`. -/
structure MasterProcessImage where
  inputImage : List UInt8
  outputImage : List UInt8
deriving DecidableEq, Repr

namespace MasterProcessImage

/-- `MasterProcessImage::new`. -/
def new : MasterProcessImage := ⟨[0, 0], [0]⟩

/-- `read_temperature_u16`. -/
def readTemperatureU16 (master : MasterProcessImage) : UInt16 :=
  match master.inputImage with
  | high :: low :: _ => u16OfBytes high low
  | _ => 0

/-- `write_valve_state`. -/
def writeValveState (master : MasterProcessImage) (isOpen : Bool) : MasterProcessImage :=
  match master.outputImage with
  | [] => master
  | first :: rest =>
    { master with outputImage := (if isOpen then first ||| 0x01 else first &&& ~~~ 0x01) :: rest }

/-- `read_outputs`; `get` of a range is `none` outside the image. -/
def readOutputs (master : MasterProcessImage) (position : Position) :
    Option (Except StatusCode (List UInt8)) :=
  let byteLen := bitLenToByteLen position.bitLen
  let offset := position.byteOffset.toNat
  match checkedSlice master.outputImage offset (offset + byteLen) with
  | some slice => some (.ok slice)
  | none => some (.error .errInvalidLen)

/-- `write_inputs`. -/
def writeInputs (master : MasterProcessImage) (data : List UInt8) (position : Position) :
    Option (Except StatusCode Unit × MasterProcessImage) :=
  let byteLen := bitLenToByteLen position.bitLen
  if data.length ≠ byteLen then some (.error .errInvalidLen, master)
  else
    let offset := position.byteOffset.toNat
    match checkedSlice master.inputImage offset (offset + byteLen) with
    | none => some (.error .errInvalidLen, master)
    | some _ => do
      let image ← checkedOverwrite master.inputImage offset (offset + byteLen) data
      some (.ok (), { master with inputImage := image })

/-- Master and slave read the same outputs, write the same inputs and fail alike at this
position, whatever the images they share and the data. -/
def AgreesAt (position : Position) : Prop :=
  ∀ (master : MasterProcessImage) (slave : DummyHardware),
    (master.outputImage = slave.outputImage →
      master.readOutputs position = slave.readOutputs position) ∧
    (master.inputImage = slave.inputImage → ∀ data,
      (master.writeInputs data position).map (fun result => (result.1, result.2.inputImage)) =
        (slave.writeInputs data position).map (fun result => (result.1, result.2.inputImage)))

end MasterProcessImage

/-! ## Whole bytes -/

/-- Without a bit offset the span is that of the field. -/
theorem DummyHardware.spanEnd_of_bitOffset {position : Position}
    (h : position.bitOffset.toNat = 0) :
    spanEnd position = position.byteOffset.toNat + bitLenToByteLen position.bitLen := by
  have hspan := DeviceStatusStore.toNat_saturatingAddU32 position.bitOffset position.bitLen
  have hlt := position.bitLen.toNat_lt
  unfold spanEnd bitLenToByteLen
  omega

theorem checkedSlice_none {image : List UInt8} {start stop : ℕ} (h : image.length < stop) :
    checkedSlice image start stop = none := by
  apply if_neg
  omega

open DummyHardware in
/-- Whole bytes are read and written alike. -/
theorem MasterProcessImage.agreesAt_of_aligned {position : Position}
    (hpos : 0 < position.bitLen.toNat)
    (haligned : position.bitOffset.toNat = 0 ∧ 8 ∣ position.bitLen.toNat) :
    AgreesAt position := by
  have hend := spanEnd_of_bitOffset haligned.1
  -- both take the branch of whole bytes
  have hfast := aligned_iff.mpr haligned
  have hfield : 0 < bitLenToByteLen position.bitLen := by
    unfold bitLenToByteLen
    omega
  intro master slave
  constructor
  · intro hsame
    unfold readOutputs DummyHardware.readOutputs
    rw [hsame, hend]
    dsimp only
    rw [if_pos hfast]
    -- reading: both slice, or both refuse
    by_cases hin : position.byteOffset.toNat + bitLenToByteLen position.bitLen ≤
        slave.outputImage.length
    · rw [if_neg (by omega), checkedSlice_eq (by omega) hin]
      rfl
    · rw [if_pos (by omega), checkedSlice_none (by omega)]
  · intro hsame data
    unfold writeInputs DummyHardware.writeInputs
    rw [hsame, hend]
    dsimp only
    rw [if_pos hfast]
    -- writing: the length is checked first, and then the bounds
    by_cases hdata : data.length = bitLenToByteLen position.bitLen
    · by_cases hin : position.byteOffset.toNat + bitLenToByteLen position.bitLen ≤
          slave.inputImage.length
      -- the data fills the span, so the copy takes all of it
      · have hslice : checkedSlice data 0 (bitLenToByteLen position.bitLen) = some data := by
          rw [checkedSlice_take hdata.ge, ← hdata, List.take_length]
        have hstart : position.byteOffset.toNat ≤
            position.byteOffset.toNat + bitLenToByteLen position.bitLen := Nat.le_add_right _ _
        have hcopy :=
          checkedOverwrite_eq hstart hin (hdata.trans (Nat.add_sub_cancel_left _ _).symm)
        rw [if_neg (not_not.mpr hdata), if_neg (by omega), checkedSlice_eq hstart hin, hslice]
        simp only [Option.bind_eq_bind, Option.bind_some, hcopy, Option.map_some]
      · rw [if_neg (not_not.mpr hdata), if_pos (by omega), checkedSlice_none (by omega)]
        exact congrArg some (Prod.ext rfl hsame)
    · rw [if_pos hdata, if_pos (by omega)]
      exact congrArg some (Prod.ext rfl hsame)

/-! ## Every other position -/

namespace DummyHardware

/-- The loop body of `read_outputs` sets no bit but its own. -/
theorem bitAt_readBit_ne {image out next : List UInt8} {offset : ℕ} {bitOffset i : UInt32}
    (h : readBit image offset bitOffset out i = some next) {k : ℕ} (hk : k ≠ i.toNat) :
    bitAt next k = bitAt out k := by
  unfold readBit at h
  simp only [Option.bind_eq_bind, Option.bind_eq_some_iff] at h
  obtain ⟨srcBit, -, source, -, h⟩ := h
  split at h
  · simp only [Option.bind_eq_some_iff, toNat_byteIndex] at h
    obtain ⟨target, htarget, h⟩ := h
    cases h
    obtain ⟨hin, rfl⟩ := List.getElem?_eq_some_iff.mp htarget
    rw [bitMask, bitAt_set_or rfl hin (toNat_shift i), if_neg hk]
  · cases h
    rfl

/-- What the loop of `read_outputs` returns is zero behind the field. -/
theorem bitAt_readBits {image out : List UInt8} {position : Position}
    (h : readBits image position = some out) {k : ℕ} (hk : position.bitLen.toNat ≤ k) :
    bitAt out k = false := by
  have hkept := @bitAt_foldlM_range_of_ne
    (fun out i => readBit image position.byteOffset.toNat position.bitOffset out (.ofNat i))
    position.bitLen.toNat k ?_ _ _ h
  · rw [hkept, bitAt_replicate_zero]
  · intro i hi bytes next hnext
    refine bitAt_readBit_ne hnext ?_
    rw [toNat_ofNat_index hi]
    omega

end DummyHardware

namespace MasterProcessImage

open DummyHardware

/-- On an image of set bits that ends with the field, the master reads set bits only. -/
theorem readOutputs_ones (position : Position) :
    (MasterProcessImage.mk [] (List.replicate (position.byteOffset.toNat +
      bitLenToByteLen position.bitLen) 0xFF)).readOutputs position =
      some (.ok (List.replicate (bitLenToByteLen position.bitLen) 0xFF)) := by
  unfold readOutputs
  dsimp only
  rw [checkedSlice_eq (Nat.le_add_right _ _) (by rw [List.length_replicate]),
    List.drop_replicate, List.take_replicate, Nat.add_sub_cancel_left, Nat.min_self]

theorem bitAt_ones {n k : ℕ} (h : k < 8 * n) : bitAt (List.replicate n 0xFF) k = true := by
  have hin : k / 8 < n := by omega
  have hbyte : ∀ b < 8, (0xFF : UInt8).toNat.testBit b = true := by decide
  rw [bitAt, List.getElem?_replicate, if_pos hin]
  exact hbyte _ (Nat.mod_lt _ (by norm_num))

/-- A position at which both read alike is one of whole bytes. -/
theorem aligned_of_agreesAt {position : Position} (h : AgreesAt position) :
    position.bitOffset.toNat = 0 ∧ 8 ∣ position.bitLen.toNat := by
  by_contra hunaligned
  have hslave := (h (.mk [] (List.replicate (position.byteOffset.toNat +
    bitLenToByteLen position.bitLen) 0xFF)) (.mk [] (List.replicate (position.byteOffset.toNat +
    bitLenToByteLen position.bitLen) 0xFF))).1 rfl
  rw [readOutputs_ones, DummyHardware.readOutputs] at hslave
  dsimp only at hslave
  rw [List.length_replicate] at hslave
  split at hslave
  · cases hslave
  · rename_i hinside
    rw [if_neg (mt aligned_iff.mp hunaligned)] at hslave
    obtain ⟨out, hread, hout⟩ := Option.map_eq_some_iff.mp hslave.symm
    cases hout
    have hspan := DeviceStatusStore.toNat_saturatingAddU32 position.bitOffset position.bitLen
    have hlt := position.bitLen.toNat_lt
    -- the span is inside the image, so the field does not end at a byte
    have hpartial : position.bitLen.toNat < 8 * bitLenToByteLen position.bitLen := by
      unfold spanEnd bitLenToByteLen at hinside
      unfold bitLenToByteLen
      omega
    -- and the slave pads it with a zero
    have hpadding := bitAt_readBits hread (Nat.le_refl _)
    rw [bitAt_ones hpartial] at hpadding
    cases hpadding

/-- **Where master and slave agree**: at a position with bits, the two process images are the
same access on all contents and data if and only if the position has no bit offset and a
length of whole bytes. -/
theorem agreesAt_iff (position : Position) (hpos : 0 < position.bitLen.toNat) :
    AgreesAt position ↔ position.bitOffset.toNat = 0 ∧ 8 ∣ position.bitLen.toNat :=
  ⟨aligned_of_agreesAt, agreesAt_of_aligned hpos⟩

theorem agreesAt_iff_temperature : AgreesAt ⟨0, 0, 16⟩ :=
  (agreesAt_iff ⟨0, 0, 16⟩ (by decide)).mpr (by decide)

/-- Four bits at offset four: the master reads the whole byte, and writes over the neighbours. -/
theorem neighbours_overwritten :
    (MasterProcessImage.mk [0x05] [0x5A]).readOutputs ⟨0, 4, 4⟩ = some (.ok [0x5A]) ∧
    (DummyHardware.mk [0x05] [0x5A]).readOutputs ⟨0, 4, 4⟩ = some (.ok [0x05]) ∧
    (MasterProcessImage.mk [0x05] [0x5A]).writeInputs [0x0C] ⟨0, 4, 4⟩ =
      some (.ok (), .mk [0x0C] [0x5A]) ∧
    (DummyHardware.mk [0x05] [0x5A]).writeInputs [0x0C] ⟨0, 4, 4⟩ =
      some (.ok (), .mk [0xC5] [0x5A]) := by
  decide

end MasterProcessImage

end TsnFieldbus
