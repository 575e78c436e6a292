import TsnFieldbus.Foundations.TransitionSystem
import TsnFieldbus.Slave.HardwareMock
import TsnFieldbus.Slave.RequestOutcomes

/-!
# The Roles of the Hardware Mock

The process images and layouts of `DummyHardware` as a test device, a temperature sensor and a
valve controller, and the accesses that the manufacturer's side makes.

- `serves_of_layoutFits`: where the variables of a layout fit the images, every stream that
  `validate_streams` accepts can be served.
- `serves_validated_iff`: the two roles of the demo serve all their streams in every run; the
  layout of the test device names an output behind its image.
-/

namespace TsnFieldbus

open Foundations

/-! ## The roles -/

/-- The data types of process variables that the layouts name, with their `i32` on the wire. -/
inductive DataType where
  | bool
  | int16
  | uint16
deriving DecidableEq, Repr

def DataType.toI32 : DataType → Int32
  | .bool => 0
  | .int16 => 3
  | .uint16 => 4

/-- `DummyHardwareRole`. -/
inductive DummyHardwareRole where
  | tests
  | temperatureSensor
  | valveController
deriving DecidableEq, Repr

namespace DummyHardware

/-- `DummyHardware::new`: its images. -/
def new : DummyHardware := ⟨[0], [0, 0]⟩

/-- `new_temperature_sensor`. -/
def newTemperatureSensor : DummyHardware := ⟨[], [0, 0]⟩

/-- `new_valve_controller`. -/
def newValveController : DummyHardware := ⟨[0], []⟩

/-- The images of a role. -/
def ofRole : DummyHardwareRole → DummyHardware
  | .tests => new
  | .temperatureSensor => newTemperatureSensor
  | .valveController => newValveController

/-- `get_layout`. -/
def getLayout : DummyHardwareRole → List ProcessVariable
  | .tests =>
    [ { name := "Status_LED"
        dataType := DataType.bool.toI32
        direction := Direction.output.toI32
        byteOffset := 2
        bitOffset := 0
        bitLen := 1 },
      { name := "Temperature"
        dataType := DataType.int16.toI32
        direction := Direction.input.toI32
        byteOffset := 0
        bitOffset := 0
        bitLen := 16 } ]
  | .temperatureSensor =>
    [ { name := "Temperature"
        dataType := DataType.uint16.toI32
        direction := Direction.output.toI32
        byteOffset := 0
        bitOffset := 0
        bitLen := 16 } ]
  | .valveController =>
    [ { name := "ValveOpen"
        dataType := DataType.bool.toI32
        direction := Direction.input.toI32
        byteOffset := 0
        bitOffset := 0
        bitLen := 1 } ]

/-- `simulate_sensor_change`; an image of fewer than two bytes panics. -/
def simulateSensorChange (hardware : DummyHardware) (newTemp : Int16) : Option DummyHardware :=
  match hardware.outputImage with
  | _ :: _ :: rest =>
    some
      { hardware with
        outputImage := (newTemp >>> 8).toUInt16.toUInt8 :: (newTemp &&& 0xFF).toUInt16.toUInt8 ::
          rest }
  | _ => none

/-- `get_valve_status`; an empty image panics. -/
def getValveStatus (hardware : DummyHardware) : Option Bool :=
  hardware.inputImage.head?.map (fun byte => byte &&& 1 != 0)

/-- `read_temperature`. -/
def readTemperature (hardware : DummyHardware) : Int16 :=
  let high := hardware.outputImage.head?.getD 0
  let low := (hardware.outputImage[1]?).getD 0
  (u16OfBytes high low).toInt16

/-! ## The sensor's bytes -/

/-- The shifts of `simulate_sensor_change` give the two bytes of the reading. -/
theorem sensorBytes_eq (temp : Int16) :
    [(temp >>> 8).toUInt16.toUInt8, (temp &&& 0xFF).toUInt16.toUInt8] =
      u16Bytes temp.toUInt16 := by
  have hhigh : (temp >>> 8).toUInt16.toUInt8 = (temp.toUInt16 >>> 8).toUInt8 := by
    apply UInt8.toBitVec_inj.mp
    apply BitVec.eq_of_getElem_eq
    intro i hi
    have hbit : 8 + i < 16 := by omega
    change ((temp.toBitVec.sshiftRight 8).setWidth 8)[i] = ((temp.toBitVec >>> 8).setWidth 8)[i]
    rw [BitVec.getElem_setWidth, BitVec.getElem_setWidth, BitVec.getLsbD_sshiftRight,
      BitVec.getLsbD_ushiftRight]
    simp [hbit]
    omega
  have hlow : (temp &&& 0xFF).toUInt16.toUInt8 = temp.toUInt16.toUInt8 := by
    apply UInt8.toBitVec_inj.mp
    change (temp.toBitVec &&& 0xFF#16).setWidth 8 = temp.toBitVec.setWidth 8
    rw [BitVec.setWidth_and]
    exact BitVec.and_allOnes
  rw [hhigh, hlow, u16Bytes_eq_shifts]

/-- A sensor with two bytes shows the reading. -/
theorem simulateSensorChange_eq {hardware : DummyHardware} (h : hardware.outputImage.length = 2)
    (temp : Int16) :
    hardware.simulateSensorChange temp =
      some { hardware with outputImage := u16Bytes temp.toUInt16 } := by
  obtain ⟨high, low, himage⟩ := List.length_eq_two.mp h
  rw [← sensorBytes_eq, simulateSensorChange, himage]

/-- Reading the temperature gives the sensor's reading back. -/
theorem readTemperature_of_bytes {hardware : DummyHardware} {temp : Int16}
    (h : hardware.outputImage = u16Bytes temp.toUInt16) : hardware.readTemperature = temp := by
  rw [u16Bytes_eq_shifts] at h
  rw [readTemperature, h]
  change (u16OfBytes (temp.toUInt16 >>> 8).toUInt8 temp.toUInt16.toUInt8).toInt16 = temp
  rw [u16OfBytes_shifts]
  rfl

/-- The valve's status is the first bit of its image. -/
theorem getValveStatus_eq {hardware : DummyHardware} (h : hardware.inputImage ≠ []) :
    hardware.getValveStatus = some (bitAt hardware.inputImage 0) := by
  obtain ⟨byte, rest, himage⟩ := List.exists_cons_of_ne_nil h
  have hmask := @and_mask_ne_zero_iff byte 0 (by decide)
  rw [getValveStatus, himage, List.head?_cons, Option.map_some, Option.some.injEq]
  apply Bool.eq_iff_iff.mpr
  rw [bne_iff_ne]
  exact hmask

end DummyHardware

/-! ## Streams that the hardware can serve -/

/-- The position of a variable. -/
def ProcessVariable.position (processVariable : ProcessVariable) : Position :=
  ⟨processVariable.byteOffset, processVariable.bitOffset, processVariable.bitLen⟩

/-- The position lies in the image that its direction is served from. -/
def DummyHardware.Holds (hardware : DummyHardware) (direction : Direction)
    (position : Position) : Prop :=
  match direction with
  | .output => position.Within hardware.outputImage.length
  | .input => position.Within hardware.inputImage.length

instance (hardware : DummyHardware) (direction : Direction) (position : Position) :
    Decidable (hardware.Holds direction position) := by
  cases direction <;> exact inferInstanceAs (Decidable (Position.Within _ _))

/-- Every variable of the layout lies in its image. -/
def LayoutFits (layout : List ProcessVariable) (hardware : DummyHardware) : Prop :=
  ∀ processVariable ∈ layout, ∀ direction : Direction,
    processVariable.direction = direction.toI32 →
    hardware.Holds direction processVariable.position

/-- The process image takes part in the stream: outputs are read in full, and inputs of the right
length are written. -/
def DummyHardware.Serves (hardware : DummyHardware) (stream : StreamConfig) : Prop :=
  ∃ content direction, stream.streamContent = some content ∧
    Direction.tryFrom stream.direction = some direction ∧
    match direction with
    | .output => ∃ bytes, hardware.readOutputs content = some (.ok bytes) ∧
        bytes.length = bitLenToByteLen content.bitLen
    | .input => ∀ data, data.length = bitLenToByteLen content.bitLen →
        ∃ next, hardware.writeInputs data content = some (.ok (), next)

/-- The sizes of the two images. -/
def DummyHardware.sizes (hardware : DummyHardware) : ℕ × ℕ :=
  (hardware.inputImage.length, hardware.outputImage.length)

/-- Images that a layout fits into serve every accepted stream. -/
theorem serves_of_layoutFits {layout : List ProcessVariable} {hardware : DummyHardware}
    (hin : hardware.inputImage.length < 2 ^ 29) (hout : hardware.outputImage.length < 2 ^ 29)
    (hfits : LayoutFits layout hardware) {stream : StreamConfig}
    (hvalid : ValidStream layout stream) : hardware.Serves stream := by
  obtain ⟨content, direction, hcontent, -, hdirection, processVariable, hmem, hcovers⟩ :=
    hvalid.content
  rw [ProcessVariable.covers, decide_eq_true_iff] at hcovers
  obtain ⟨hvariable, hbyte, hbit, hlen⟩ := hcovers
  -- the stream covers a variable of the layout, at its very position
  have hposition : processVariable.position = content := by
    rw [ProcessVariable.position, hbyte, hbit, hlen]
  have hholds := hfits processVariable hmem direction hvariable
  rw [hposition] at hholds
  refine ⟨content, direction, hcontent, hdirection, ?_⟩
  cases direction with
  | output =>
    obtain ⟨bytes, hread, -, hsize, -⟩ := (DummyHardware.readsOutputs content hout).read hholds
    exact ⟨bytes, hread, hsize⟩
  | input =>
    intro data hdata
    obtain ⟨image, hwrite, -⟩ := (DummyHardware.writesInputs data content hin).written hholds hdata
    exact ⟨_, hwrite⟩

/-! ## Runs of the hardware -/

/-- What happens to the images: the L2 receiver writes, or the sensor changes. -/
inductive HardwareEvent where
  | write (data : List UInt8) (position : Position)
  | sense (temp : Int16)

namespace DummyHardware

/-- One access; `none` is a panic. -/
def step (hardware : DummyHardware) : HardwareEvent → Option DummyHardware
  | .write data position => (hardware.writeInputs data position).map Prod.snd
  | .sense temp => hardware.simulateSensorChange temp

/-- No access changes the size of an image. -/
theorem sizes_step {hardware next : DummyHardware} {event : HardwareEvent}
    (hin : hardware.inputImage.length < 2 ^ 29) (h : hardware.step event = some next) :
    next.sizes = hardware.sizes := by
  cases event with
  | write data position =>
    obtain ⟨⟨result, hardware'⟩, hwrite, rfl⟩ := Option.map_eq_some_iff.mp h
    have hspec := writesInputs data position hin
    -- a write within the image overwrites, any other is refused
    by_cases hinside : position.Within hardware.inputImage.length ∧
        data.length = bitLenToByteLen position.bitLen
    · obtain ⟨image, hwritten, -, hlength, -⟩ := hspec.written hinside.1 hinside.2
      cases hwritten.symm.trans hwrite
      exact Prod.ext hlength rfl
    · cases (hspec.refused hinside).symm.trans hwrite
      rfl
  -- the sensor sets two bytes that are there
  | sense temp =>
    simp only [step, simulateSensorChange] at h
    split at h
    · rename_i high low rest himage
      cases h
      simp [sizes, himage]
    · cases h

theorem sizes_execute {hardware next : DummyHardware} {events : List HardwareEvent}
    (hin : hardware.inputImage.length < 2 ^ 29) (h : execute step hardware events = some next) :
    next.sizes = hardware.sizes := by
  apply execute_invariant (I := fun t => t.sizes = hardware.sizes) _ rfl h
  intro s event t hs hstep
  have hlength : s.inputImage.length = hardware.inputImage.length := congrArg Prod.fst hs
  exact (sizes_step (hlength ▸ hin) hstep).trans hs

/-- Whether a position is held depends on the sizes only. -/
theorem layoutFits_of_sizes {layout : List ProcessVariable} {hardware next : DummyHardware}
    (h : next.sizes = hardware.sizes) (hfits : LayoutFits layout hardware) :
    LayoutFits layout next := by
  obtain ⟨hin, hout⟩ := Prod.mk.inj h
  intro processVariable hmem direction hdirection
  have hholds := hfits processVariable hmem direction hdirection
  unfold Holds at hholds ⊢
  rw [hin, hout]
  exact hholds

/-- The layouts of the demo's roles fit their images. -/
theorem layoutFits_ofRole {role : DummyHardwareRole} (h : role ≠ .tests) :
    LayoutFits (getLayout role) (ofRole role) := by
  cases role with
  | tests => exact absurd rfl h
  | temperatureSensor =>
    intro processVariable hmem direction hdirection
    rw [getLayout, List.mem_singleton] at hmem
    subst hmem
    cases direction with
    | output => decide
    | input => exact absurd hdirection (by decide)
  | valveController =>
    intro processVariable hmem direction hdirection
    rw [getLayout, List.mem_singleton] at hmem
    subst hmem
    cases direction with
    | output => exact absurd hdirection (by decide)
    | input => decide

theorem sizes_ofRole_lt (role : DummyHardwareRole) :
    (ofRole role).inputImage.length < 2 ^ 29 ∧ (ofRole role).outputImage.length < 2 ^ 29 := by
  cases role <;> decide

/-- A stream of the variable that the test device's layout places behind its output image. -/
def statusLedStream : StreamConfig :=
  { streamId := 1
    destinationMac := [0, 1, 2, 3, 4, 5]
    vlanIdPcp := 0
    cycleTimeNano := 250000
    direction := Direction.output.toI32
    streamContent := some ⟨2, 0, 1⟩ }

/-- **Accepted streams can be served in every run, but for the test device.** Whatever is written
to the images of a role, every stream that `validate_streams` accepts for its layout is read or
written without failure; the layout of the test device has a variable for which this fails. -/
theorem serves_validated_iff (role : DummyHardwareRole) :
    (∀ (events : List HardwareEvent) (hardware : DummyHardware),
      execute step (ofRole role) events = some hardware →
      ∀ streams, validateStreams (getLayout role) [] streams = .ok () →
      ∀ stream ∈ streams, hardware.Serves stream) ↔
    role ≠ .tests := by
  constructor
  -- the layout of the tests offers a variable outside its image
  · rintro h rfl
    obtain ⟨content, direction, hcontent, hdirection, hserves⟩ :=
      h [] new rfl [statusLedStream] rfl statusLedStream List.mem_cons_self
    cases hcontent
    cases hdirection
    obtain ⟨bytes, hread, -⟩ := hserves
    cases hread
  · intro hrole events hardware hrun streams hvalid stream hmem
    -- for the other roles the sizes never change, and the layout fits them
    obtain ⟨hin, hout⟩ := sizes_ofRole_lt role
    have hsizes := sizes_execute hin hrun
    obtain ⟨hinputs, houtputs⟩ := Prod.mk.inj hsizes
    apply serves_of_layoutFits (hinputs ▸ hin) (houtputs ▸ hout)
      (layoutFits_of_sizes hsizes (layoutFits_ofRole hrole))
    exact validStream_of_validateStreams hvalid stream hmem

end DummyHardware

end TsnFieldbus
