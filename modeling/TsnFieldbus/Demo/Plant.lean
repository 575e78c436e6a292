import TsnFieldbus.Common.DemoRuntime
import TsnFieldbus.Master.HardwareMock
import TsnFieldbus.Protocol.StreamNetwork
import TsnFieldbus.Slave.HardwareRoles

/-!
# The Demo Plant

The three stations of the demo with their process images: a temperature sensor, a valve, and a
master whose control loop opens the valve above a hundred degrees. The tasks of the stations and
the iterations of their L2 threads come in any order, and what the threads receive is any byte
string.

- `Plant.relayed_step`: every register of the chain holds what was last put into it.
- `Plant.Relayed.observed_samples_sensed`: the valve against the sensor, over all registers.
- `valve_follows_sensor`: what the valve shows was decided on temperatures that the sensor had
  before, in their order.
-/

namespace TsnFieldbus

open Foundations StreamStore

/-! ## Stations and streams -/

/-- The stations of the demo. -/
inductive Station where
  | master
  | temperature
  | valve
deriving DecidableEq, Repr

/-- The roles that the stations play on the segment. -/
def Station.party : Station → L2Party
  | .master => .master
  | .temperature => .slave
  | .valve => .slave

def temperatureStreamId : UInt32 := 1001

def valveStreamId : UInt32 := 1002

/-- `VALVE_SLAVE_MAC`, which the master discovers. -/
def valveSlaveMac : MacAddr := ⟨0x02, 0x42, 0xAC, 0x10, 0x00, 0x12⟩

/-- `temperature_stream_master` and `temperature_stream_slave`. -/
def temperatureStream (masterMac : MacAddr) (direction : Direction) : StreamConfig :=
  { streamId := temperatureStreamId
    destinationMac := masterMac.octets
    vlanIdPcp := (buildVlanTag 100 6).toUInt32
    cycleTimeNano := 1000000
    direction := direction.toI32
    streamContent := some ⟨0, 0, 16⟩ }

/-- `valve_stream_master` and `valve_stream_slave`. -/
def valveStream (valveMac : MacAddr) (direction : Direction) : StreamConfig :=
  { streamId := valveStreamId
    destinationMac := valveMac.octets
    vlanIdPcp := (buildVlanTag 100 6).toUInt32
    cycleTimeNano := 1000000
    direction := direction.toI32
    streamContent := some ⟨0, 0, 1⟩ }

/-- The streams that a station is configured with, for the addresses of the master and of the
discovered valve. -/
def Station.streams (masterMac valveMac : MacAddr) : Station → List StreamConfig
  | .master => [temperatureStream masterMac .input, valveStream valveMac .output]
  | .temperature => [temperatureStream masterMac .output]
  | .valve => [valveStream valveMac .input]

/-- The stream store of a station when its L2 handler starts. -/
def Station.store (secret : Secret) (masterMac valveMac : MacAddr) (station : Station) :
    StreamStore :=
  ((StreamStore.new secret).addStreamConfigs (station.streams masterMac valveMac)).2

theorem outputs_store (secret : Secret) (masterMac valveMac : MacAddr) (station : Station) :
    (station.store secret masterMac valveMac).getStreamsByDirection .output =
      match station with
      | .master => [valveStream valveMac .output]
      | .temperature => [temperatureStream masterMac .output]
      | .valve => [] := by
  cases station <;> rfl

theorem inputs_store (secret : Secret) (masterMac valveMac : MacAddr) (station : Station) :
    (station.store secret masterMac valveMac).getStreamsByDirection .input =
      match station with
      | .master => [temperatureStream masterMac .input]
      | .temperature => []
      | .valve => [valveStream valveMac .input] := by
  cases station <;> rfl

/-! ## The plant -/

/-- The decision of the control loop. -/
def valveOpen (temperature : UInt16) : Bool := decide (100 < temperature)

/-- The network of the stations with their process images, and what has been put into and read
from the two ends. -/
structure Plant where
  net : StreamNetwork Station
  sensor : DummyHardware
  processImage : MasterProcessImage
  actuator : DummyHardware
  /-- The readings of the sensor, oldest first, beginning with the zeroed image. -/
  sensed : List UInt16
  /-- The temperatures that the control loop has read, beginning with its `previous_temperature`. -/
  controlled : List UInt16
  /-- What the valve update task has read. -/
  observed : List Bool

/-- What the tasks and the threads do. -/
inductive PlantEvent where
  /-- The temperature wave task sets the sensor. -/
  | sense (temp : Int16)
  /-- The control loop of the master makes a pass. -/
  | control
  /-- The valve update task reads the valve. -/
  | watch
  /-- The sender thread of a station serves a stream that is due. -/
  | send (station : Station) (state : DeviceState) (sourceMac : MacAddr) (cycleCounter : UInt16)
      (stream : StreamConfig)
  /-- The receiver thread of a station takes a frame. -/
  | receive (station : Station) (state : DeviceState) (frame : Frame)

namespace Plant

/-- The stations are configured and start their L2 handlers. -/
def start (secret : Secret) (masterMac valveMac : MacAddr) : Plant :=
  { net := .start Station.party (Station.store secret masterMac valveMac)
    sensor := .newTemperatureSensor
    processImage := .new
    actuator := .newValveController
    sensed := [0]
    controlled := [0]
    observed := [] }

/-- `read_outputs` of the station's process image; `none` is a panic. -/
def readOutputs (plant : Plant) :
    Station → Position → Option (Except StatusCode (List UInt8))
  | .master => plant.processImage.readOutputs
  | .temperature => plant.sensor.readOutputs
  | .valve => plant.actuator.readOutputs

/-- What the process image answers to the read for a stream, which has at most one position. -/
def outputsFor (plant : Plant) (station : Station) (stream : StreamConfig) :
    Option (Except StatusCode (List UInt8)) :=
  match stream.streamContent with
  | none => some (.error .errParamInvalid)
  | some content => plant.readOutputs station content

/-- `write_inputs` of the station's process image; a failure leaves it as it is. -/
def writeInputs (plant : Plant) (station : Station) (input : InputWrite) : Option Plant :=
  match station with
  | .master => do
    let (_, processImage) ← plant.processImage.writeInputs input.data input.position
    some { plant with processImage := processImage }
  | .temperature => do
    let (_, sensor) ← plant.sensor.writeInputs input.data input.position
    some { plant with sensor := sensor }
  | .valve => do
    let (_, actuator) ← plant.actuator.writeInputs input.data input.position
    some { plant with actuator := actuator }

/-- The writes that an iteration has added to a node. -/
def newWrites (before after : L2Node) : List InputWrite :=
  (after.writes.drop before.writes.length).map L2Write.input

variable (blake3 : KeyedHash)

/-- One step of a task or of a thread; `none` is a panic, or an iteration that does not occur. -/
def step (plant : Plant) : PlantEvent → Option Plant
  | .sense temp => do
    let sensor ← plant.sensor.simulateSensorChange temp
    some
      { plant with
        sensor := sensor
        sensed := plant.sensed ++ [temp.toUInt16] }
  | .control =>
    let temperature := plant.processImage.readTemperatureU16
    some
      { plant with
        processImage := plant.processImage.writeValveState (valveOpen temperature)
        controlled := plant.controlled ++ [temperature] }
  | .watch => do
    let current ← plant.actuator.getValveStatus
    some { plant with observed := plant.observed ++ [current] }
  | .send station state sourceMac cycleCounter stream => do
    let outputs ← plant.outputsFor station stream
    let net ← plant.net.step blake3
      (station, .send state sourceMac (fun _ => outputs) cycleCounter stream)
    some { plant with net := net }
  | .receive station state frame => do
    let net ← plant.net.step blake3 (station, .receive state frame)
    (newWrites (plant.net.nodes station) (net.nodes station)).foldlM
      (fun plant input => plant.writeInputs station input) { plant with net := net }

/-- Keyed BLAKE3 idealised as unforgeable: the tag of a frame that a station takes verifies only
if its message has been tagged before. -/
def Unforged (other : TaggedMessages) (plant : Plant) (event : PlantEvent) : Prop :=
  ∀ station state frame, event = .receive station state frame →
    plant.net.Unforged blake3 other (station, .receive state frame)

end Plant

/-! ## Process images -/

theorem MasterProcessImage.readTemperatureU16_of_bytes {master : MasterProcessImage}
    {temperature : UInt16} (h : master.inputImage = u16Bytes temperature) :
    master.readTemperatureU16 = temperature := by
  rw [u16Bytes_eq_shifts] at h
  rw [readTemperatureU16, h]
  exact u16OfBytes_shifts temperature

/-- The temperature field of the master takes two bytes. -/
theorem MasterProcessImage.writeInputs_temperature {master : MasterProcessImage}
    {data : List UInt8} (hdata : data.length = 2) (himage : master.inputImage.length = 2) :
    master.writeInputs data ⟨0, 0, 16⟩ = some (.ok (), { master with inputImage := data }) := by
  obtain ⟨high, low, rfl⟩ := List.length_eq_two.mp hdata
  obtain ⟨high', low', himage⟩ := List.length_eq_two.mp himage
  unfold writeInputs
  rw [himage]
  rfl

/-- The whole byte of the valve is sent. -/
theorem MasterProcessImage.readOutputs_valve {master : MasterProcessImage} {byte : UInt8}
    (h : master.outputImage = [byte]) : master.readOutputs ⟨0, 0, 1⟩ = some (.ok [byte]) := by
  rw [readOutputs, h]
  rfl

theorem bitAt_zero (byte : UInt8) (rest : List UInt8) :
    bitAt (byte :: rest) 0 = byte.toNat.testBit 0 := rfl

/-- Writing the valve state sets the bit that is sent. -/
theorem MasterProcessImage.writeValveState_eq {master : MasterProcessImage} {byte : UInt8}
    (h : master.outputImage = [byte]) (isOpen : Bool) :
    ∃ next, master.writeValveState isOpen = { master with outputImage := [next] } ∧
      bitAt [next] 0 = isOpen := by
  rw [writeValveState, h]
  refine ⟨_, rfl, ?_⟩
  rw [bitAt_zero]
  cases isOpen with
  | true => exact @testBit_or_mask byte 0 (by decide) 0
  | false => exact @testBit_and_not_mask byte 0 (by decide) 0 (by decide)

/-- The sensor's two bytes are read in full. -/
theorem DummyHardware.readOutputs_temperature {hardware : DummyHardware}
    (h : hardware.outputImage.length = 2) :
    hardware.readOutputs ⟨0, 0, 16⟩ = some (.ok hardware.outputImage) := by
  obtain ⟨high, low, himage⟩ := List.length_eq_two.mp h
  unfold readOutputs
  rw [himage]
  rfl

/-- The valve takes the first bit of a byte. -/
theorem DummyHardware.writeInputs_valve {hardware : DummyHardware} {data : List UInt8}
    (hdata : data.length = 1) (himage : hardware.inputImage.length = 1) :
    ∃ image, hardware.writeInputs data ⟨0, 0, 1⟩ =
        some (.ok (), { hardware with inputImage := image }) ∧
      image.length = 1 ∧ bitAt image 0 = bitAt data 0 := by
  have hsmall : hardware.inputImage.length < 2 ^ 29 := by
    rw [himage]
    norm_num
  have hwithin : (Position.mk 0 0 1).Within hardware.inputImage.length := by
    rw [himage]
    decide
  obtain ⟨image, hwrite, -, hlength, hbits⟩ :=
    (writesInputs data ⟨0, 0, 1⟩ hsmall).written hwithin hdata
  exact ⟨image, hwrite, hlength.trans himage, hbits 0⟩

/-! ## Nodes -/

/-- What a due stream adds to a node. -/
theorem L2Node.send_adds {blake3 : KeyedHash} {node next : L2Node} {state : DeviceState}
    {sourceMac : MacAddr} {readOutputs : Position → Except StatusCode (List UInt8)}
    {cycleCounter : UInt16} {stream : StreamConfig}
    (h : node.step blake3 (.send state sourceMac readOutputs cycleCounter stream) = some next) :
    next.writes = node.writes ∧ ∀ id, messagesOf id next.sent = messagesOf id node.sent ∨
      stream ∈ node.outputStreams ∧ stream.streamId.toUInt16 = id ∧
        ∃ message status, OutputsRead readOutputs stream status message.payload ∧
          messagesOf id next.sent = messagesOf id node.sent ++ [message] := by
  cases L2Node.step_effect h with
  | unsent => exact ⟨rfl, fun id => .inl rfl⟩
  | @sent _ _ destination _ _ _ status payload e hmem hread hentry =>
    refine ⟨rfl, fun id => ?_⟩
    -- the frame parses back to the stream and the payload it was built from
    obtain ⟨message, hmessage, hkey, rfl⟩ : ∃ message, Frame.message (buildL2Frame sourceMac
        destination stream.vlanIdPcp.toUInt16 (.new stream.streamId.toUInt16 cycleCounter
          status.toU8) payload ⟨e.sequenceNumber, tagOf blake3 node.store.sharedSecret
        (signedL2Bytes (.new stream.streamId.toUInt16 cycleCounter status.toU8) payload
          e.sequenceNumber)⟩) = some message ∧
        message.header.streamId = stream.streamId.toUInt16 ∧ message.payload = payload :=
      ⟨_, Frame.message_of_parse (parseL2Frame_build _ _ _ _ _ _), rfl, rfl⟩
    dsimp only
    rw [messagesOf_append, messagesOf_singleton hmessage, hkey]
    -- one message more for its stream, none for the others
    by_cases hid : stream.streamId.toUInt16 = id
    · right
      refine ⟨hmem, hid, message, status, hread, ?_⟩
      rw [if_pos hid]
    · left
      rw [if_neg hid, List.append_nil]

/-- What a received frame adds to a node. -/
theorem L2Node.receive_adds {blake3 : KeyedHash} {node next : L2Node} {state : DeviceState}
    {frame : Frame} (h : node.step blake3 (.receive state frame) = some next) :
    next.sent = node.sent ∧
      (next.writes = node.writes ∨ ∃ write, next.writes = node.writes ++ [write]) := by
  cases L2Node.step_effect h with
  | refused => exact ⟨rfl, .inl rfl⟩
  | @accepted _ _ message stream e haccept hstream hentry hfresh =>
    refine ⟨rfl, ?_⟩
    cases message.input stream with
    | none =>
      left
      exact List.append_nil _
    | some input => exact .inr ⟨_, rfl⟩

namespace StreamNetwork

variable {ι : Type*} [DecidableEq ι] {blake3 : KeyedHash} {net next : StreamNetwork ι} {i : ι}

theorem step_node {event : L2Event} (h : net.step blake3 (i, event) = some next) :
    (net.nodes i).step blake3 event = some (next.nodes i) ∧
      ∀ j ≠ i, next.nodes j = net.nodes j := by
  obtain ⟨node, hnode, hnodes, -⟩ := step_eq_some h
  rw [hnodes, Function.update_self]
  exact ⟨hnode, fun j hj => Function.update_of_ne hj _ _⟩

/-- What a due stream of one node adds to the network. -/
theorem send_adds {state : DeviceState} {sourceMac : MacAddr}
    {readOutputs : Position → Except StatusCode (List UInt8)} {cycleCounter : UInt16}
    {stream : StreamConfig}
    (h : net.step blake3 (i, .send state sourceMac readOutputs cycleCounter stream) = some next)
    (j : ι) (id : UInt16) :
    (next.nodes j).writtenMessages id = (net.nodes j).writtenMessages id ∧
      (messagesOf id (next.nodes j).sent = messagesOf id (net.nodes j).sent ∨
        i = j ∧ stream ∈ (net.nodes j).outputStreams ∧ stream.streamId.toUInt16 = id ∧
          ∃ message status, OutputsRead readOutputs stream status message.payload ∧
            messagesOf id (next.nodes j).sent = messagesOf id (net.nodes j).sent ++ [message]) := by
  obtain ⟨hnode, hothers⟩ := step_node h
  by_cases hj : j = i
  · subst hj
    obtain ⟨hwrites, hsent⟩ := L2Node.send_adds hnode
    constructor
    · rw [L2Node.writtenMessages, hwrites, L2Node.writtenMessages]
    · exact (hsent id).imp_right (fun hadded => ⟨rfl, hadded⟩)
  · rw [hothers j hj]
    exact ⟨rfl, .inl rfl⟩

end StreamNetwork

/-! ## The chain of registers -/

/-- The temperature that a message carries. -/
def L2Message.temperature (message : L2Message) : UInt16 :=
  (MasterProcessImage.mk message.payload []).readTemperatureU16

/-- The valve state that a message carries. -/
def L2Message.valveState (message : L2Message) : Bool := bitAt message.payload 0

namespace Plant

/-- The temperatures in the messages, after the zeroed image of the receiver. -/
def temperatures (messages : List L2Message) : List UInt16 :=
  0 :: messages.map L2Message.temperature

/-- The valve states in the messages, after the zeroed image of the receiver. -/
def valveStates (messages : List L2Message) : List Bool :=
  false :: messages.map L2Message.valveState

theorem temperatures_concat (messages : List L2Message) (message : L2Message) :
    temperatures (messages ++ [message]) = temperatures messages ++ [message.temperature] := by
  rw [temperatures, List.map_append]
  rfl

theorem valveStates_concat (messages : List L2Message) (message : L2Message) :
    valveStates (messages ++ [message]) = valveStates messages ++ [message.valveState] := by
  rw [valveStates, List.map_append]
  rfl

/-- What a station has sent of a stream. -/
def sentBy (plant : Plant) (station : Station) (id : UInt32) : List L2Message :=
  messagesOf id.toUInt16 (plant.net.nodes station).sent

/-- What a station has written of a stream. -/
def writtenBy (plant : Plant) (station : Station) (id : UInt32) : List L2Message :=
  (plant.net.nodes station).writtenMessages id.toUInt16

/-- Every register on the way from the sensor to the valve holds what was last put into it, and
all that is put into the next one was read from it. -/
structure Relayed (secret : Secret) (masterMac valveMac : MacAddr) (other : TaggedMessages)
    (plant : Plant) : Prop where
  temperatureStream : plant.net.Carries temperatureStreamId.toUInt16 .temperature other
    (Station.store secret masterMac valveMac)
  valveStream : plant.net.Carries valveStreamId.toUInt16 .master other
    (Station.store secret masterMac valveMac)
  sensor : ∃ temperature, plant.sensed.getLast? = some temperature ∧
    plant.sensor.outputImage = u16Bytes temperature
  sentTemperatures : Samples (temperatures (plant.sentBy .temperature temperatureStreamId))
    plant.sensed
  input : ∃ temperature,
    (temperatures (plant.writtenBy .master temperatureStreamId)).getLast? = some temperature ∧
    plant.processImage.inputImage = u16Bytes temperature
  controlled : Samples plant.controlled
    (temperatures (plant.writtenBy .master temperatureStreamId))
  output : ∃ byte, plant.processImage.outputImage = [byte] ∧
    (plant.controlled.map valveOpen).getLast? = some (bitAt [byte] 0)
  sentStates : Samples (valveStates (plant.sentBy .master valveStreamId))
    (plant.controlled.map valveOpen)
  actuator : plant.actuator.inputImage.length = 1 ∧
    (valveStates (plant.writtenBy .valve valveStreamId)).getLast? =
      some (bitAt plant.actuator.inputImage 0)
  observed : Samples plant.observed (valveStates (plant.writtenBy .valve valveStreamId))

variable {blake3 : KeyedHash} {secret : Secret} {masterMac valveMac : MacAddr}
  {other : TaggedMessages}

theorem relayed_start :
    (start secret masterMac valveMac).Relayed secret masterMac valveMac other where
  temperatureStream := StreamNetwork.carries_start _ _ _ _ _
  valveStream := StreamNetwork.carries_start _ _ _ _ _
  sensor := ⟨0, rfl, rfl⟩
  sentTemperatures := Samples.refl [0]
  input := ⟨0, rfl, rfl⟩
  controlled := Samples.refl [0]
  output := ⟨0, rfl, rfl⟩
  sentStates := Samples.refl [false]
  actuator := ⟨rfl, (congrArg some (by decide : bitAt [0] 0 = false)).symm⟩
  observed := .nil _

/-- What the control loop has read are earlier readings of the sensor. -/
theorem Relayed.controlled_samples_sensed {plant : Plant}
    (h : plant.Relayed secret masterMac valveMac other) :
    Samples plant.controlled plant.sensed := by
  have htemperature : Samples (temperatures (plant.writtenBy .master temperatureStreamId))
      (temperatures (plant.sentBy .temperature temperatureStreamId)) :=
    .cons (.of_sublist ((h.temperatureStream.sublist .master).map L2Message.temperature)) 0
  exact (h.controlled.trans htemperature).trans h.sentTemperatures

/-- What the valve has shown was decided on earlier readings of the sensor. -/
theorem Relayed.observed_samples_sensed {plant : Plant}
    (h : plant.Relayed secret masterMac valveMac other) :
    Samples plant.observed (plant.sensed.map valveOpen) := by
  have hvalve : Samples (valveStates (plant.writtenBy .valve valveStreamId))
      (valveStates (plant.sentBy .master valveStreamId)) :=
    .cons (.of_sublist ((h.valveStream.sublist .valve).map L2Message.valveState)) false
  calc Samples plant.observed (valveStates (plant.writtenBy .valve valveStreamId)) := h.observed
    Samples _ (valveStates (plant.sentBy .master valveStreamId)) := hvalve
    Samples _ (plant.controlled.map valveOpen) := h.sentStates
    Samples _ (plant.sensed.map valveOpen) := h.controlled_samples_sensed.map valveOpen

/-! ## Steps -/

theorem relayed_sense {plant next : Plant} {temp : Int16}
    (h : plant.Relayed secret masterMac valveMac other)
    (hstep : plant.step blake3 (.sense temp) = some next) :
    next.Relayed secret masterMac valveMac other := by
  obtain ⟨temperature, -, himage⟩ := h.sensor
  have hlength : plant.sensor.outputImage.length = 2 := by
    rw [himage]
    exact BigEndian.length_encode _ _
  simp only [step, DummyHardware.simulateSensorChange_eq hlength, Option.bind_eq_bind,
    Option.bind_some, Option.some.injEq] at hstep
  subst hstep
  exact
    { h with
      sensor := ⟨temp.toUInt16, List.getLast?_concat, rfl⟩
      sentTemperatures := h.sentTemperatures.append _ }

theorem relayed_control {plant next : Plant}
    (h : plant.Relayed secret masterMac valveMac other)
    (hstep : plant.step blake3 .control = some next) :
    next.Relayed secret masterMac valveMac other := by
  obtain ⟨temperature, hlast, hinput⟩ := h.input
  obtain ⟨byte, hbyte, -⟩ := h.output
  have hread := MasterProcessImage.readTemperatureU16_of_bytes hinput
  -- the bit written is the decision on the temperature just read
  obtain ⟨written, hwrite, hbit⟩ :=
    MasterProcessImage.writeValveState_eq hbyte (valveOpen temperature)
  simp only [step, hread, hwrite, Option.some.injEq] at hstep
  subst hstep
  exact
    { h with
      input := ⟨temperature, hlast, hinput⟩
      controlled := h.controlled.concat_last hlast
      output := ⟨written, rfl, by
        rw [List.map_append, hbit]
        exact List.getLast?_concat⟩
      sentStates := by
        rw [List.map_append]
        exact h.sentStates.append _ }

theorem relayed_watch {plant next : Plant}
    (h : plant.Relayed secret masterMac valveMac other)
    (hstep : plant.step blake3 .watch = some next) :
    next.Relayed secret masterMac valveMac other := by
  obtain ⟨hlength, hlast⟩ := h.actuator
  have hstatus := DummyHardware.getValveStatus_eq (List.ne_nil_of_length_eq_add_one hlength)
  simp only [step, hstatus, Option.bind_eq_bind, Option.bind_some, Option.some.injEq] at hstep
  subst hstep
  exact { h with observed := h.observed.concat_last hlast }

/-- No two stations send streams with the same identifier. -/
theorem outputs_disjoint {station sender : Station} (hne : station ≠ sender)
    {stream own : StreamConfig}
    (hstream : stream ∈ (station.store secret masterMac valveMac).getStreamsByDirection .output)
    (hown : own ∈ (sender.store secret masterMac valveMac).getStreamsByDirection .output) :
    stream.streamId.toUInt16 ≠ own.streamId.toUInt16 := by
  have hids : temperatureStreamId.toUInt16 ≠ valveStreamId.toUInt16 := by decide
  rw [outputs_store] at hstream hown
  cases station with
  -- the valve sends nothing
  | valve => cases hstream
  | master =>
    cases List.mem_singleton.mp hstream
    cases sender with
    | master => exact absurd rfl hne
    | valve => cases hown
    | temperature =>
      cases List.mem_singleton.mp hown
      exact hids.symm
  | temperature =>
    cases List.mem_singleton.mp hstream
    cases sender with
    | temperature => exact absurd rfl hne
    | valve => cases hown
    | master =>
      cases List.mem_singleton.mp hown
      exact hids

/-- Both streams of the plant arrive as they were sent. -/
def Channels (secret : Secret) (masterMac valveMac : MacAddr) (other : TaggedMessages)
    (net : StreamNetwork Station) : Prop :=
  net.Carries temperatureStreamId.toUInt16 .temperature other
      (Station.store secret masterMac valveMac) ∧
    net.Carries valveStreamId.toUInt16 .master other (Station.store secret masterMac valveMac)

/-- The network part of a step keeps both channels. -/
theorem Relayed.carries {plant : Plant} {net : StreamNetwork Station}
    {event : Station × L2Event}
    (h : plant.Relayed secret masterMac valveMac other)
    (hforge : plant.net.Unforged blake3 other event)
    (hnet : plant.net.step blake3 event = some net) :
    Channels secret masterMac valveMac other net := by
  constructor
  · apply StreamNetwork.carries_step _ _ _ _ h.temperatureStream hforge hnet
    intro station hne stream hmem
    exact outputs_disjoint hne hmem
      (List.mem_singleton_self (TsnFieldbus.temperatureStream masterMac .output))
  · apply StreamNetwork.carries_step _ _ _ _ h.valveStream hforge hnet
    intro station hne stream hmem
    exact outputs_disjoint hne hmem
      (List.mem_singleton_self (TsnFieldbus.valveStream valveMac .output))

/-- What the temperature station sends was read from the sensor. -/
theorem Relayed.sensed_of_read {plant : Plant}
    (h : plant.Relayed secret masterMac valveMac other)
    {outputs : Except StatusCode (List UInt8)} {status : StatusCode} {message : L2Message}
    (houtputs : plant.outputsFor .temperature
      (TsnFieldbus.temperatureStream masterMac .output) = some outputs)
    (hread : OutputsRead (fun _ => outputs) (TsnFieldbus.temperatureStream masterMac .output) status
      message.payload) :
    plant.sensed.getLast? = some message.temperature := by
  obtain ⟨temperature, hlast, himage⟩ := h.sensor
  have hlength : plant.sensor.outputImage.length = 2 := by
    rw [himage]
    exact BigEndian.length_encode _ _
  cases (DummyHardware.readOutputs_temperature hlength).symm.trans houtputs
  have hpayload : message.payload = u16Bytes temperature := by
    rcases hread with ⟨hread, -⟩ | ⟨hread, -⟩
    · exact (Except.ok.inj hread).symm.trans himage
    -- the two bytes are there, so the read does not fail
    · cases hread
  rw [hlast, L2Message.temperature, MasterProcessImage.readTemperatureU16_of_bytes hpayload]

/-- What the master sends was read from the byte that the control loop writes. -/
theorem Relayed.decided_of_read {plant : Plant}
    (h : plant.Relayed secret masterMac valveMac other)
    {outputs : Except StatusCode (List UInt8)} {status : StatusCode} {message : L2Message}
    (houtputs : plant.outputsFor .master (TsnFieldbus.valveStream valveMac .output) = some outputs)
    (hread : OutputsRead (fun _ => outputs) (TsnFieldbus.valveStream valveMac .output) status
      message.payload) :
    (plant.controlled.map valveOpen).getLast? = some message.valveState := by
  obtain ⟨byte, hbyte, hlast⟩ := h.output
  cases (MasterProcessImage.readOutputs_valve hbyte).symm.trans houtputs
  have hpayload : message.payload = [byte] := by
    rcases hread with ⟨hread, -⟩ | ⟨hread, -⟩
    · exact (Except.ok.inj hread).symm
    -- the byte is there, so the read does not fail
    · cases hread
  rw [hlast, L2Message.valveState, hpayload]

theorem relayed_send {plant next : Plant} {station : Station} {state : DeviceState}
    {sourceMac : MacAddr} {cycleCounter : UInt16} {stream : StreamConfig}
    (h : plant.Relayed secret masterMac valveMac other)
    (hstep : plant.step blake3 (.send station state sourceMac cycleCounter stream) = some next) :
    next.Relayed secret masterMac valveMac other := by
  obtain ⟨outputs, houtputs, hstep⟩ := Option.bind_eq_some_iff.mp hstep
  obtain ⟨net, hnet, hnext⟩ := Option.bind_eq_some_iff.mp hstep
  cases hnext
  have hforge : plant.net.Unforged blake3 other
      (station, .send state sourceMac (fun _ => outputs) cycleCounter stream) := by
    intro state' frame hmem
    cases List.mem_singleton.mp hmem
  obtain ⟨htemperature, hvalve⟩ := h.carries hforge hnet
  have hadds := StreamNetwork.send_adds hnet
  -- sending writes to no process image
  have hmaster : Plant.writtenBy { plant with net := net } .master temperatureStreamId =
      plant.writtenBy .master temperatureStreamId := (hadds _ _).1
  have hactuator : Plant.writtenBy { plant with net := net } .valve valveStreamId =
      plant.writtenBy .valve valveStreamId := (hadds _ _).1
  refine ⟨htemperature, hvalve, h.sensor, ?_, hmaster ▸ h.input, hmaster ▸ h.controlled, h.output,
    ?_, hactuator ▸ h.actuator, hactuator ▸ h.observed⟩
  · rcases (hadds .temperature temperatureStreamId.toUInt16).2 with
      hsame | ⟨rfl, hmem, -, message, status, hread, hsent⟩
    -- no temperature is sent
    · rw [temperatures, sentBy, hsame]
      exact h.sentTemperatures
    -- the one that is sent repeats the last reading
    · rw [h.temperatureStream.outputs, outputs_store] at hmem
      cases List.mem_singleton.mp hmem
      rw [sentBy, hsent, temperatures_concat]
      exact h.sentTemperatures.concat_last (h.sensed_of_read houtputs hread)
  · rcases (hadds .master valveStreamId.toUInt16).2 with
      hsame | ⟨rfl, hmem, -, message, status, hread, hsent⟩
    -- no valve state is sent
    · rw [valveStates, sentBy, hsame]
      exact h.sentStates
    -- the one that is sent repeats the last decision
    · rw [h.temperatureStream.outputs, outputs_store] at hmem
      cases List.mem_singleton.mp hmem
      rw [sentBy, hsent, valveStates_concat]
      exact h.sentStates.concat_last (h.decided_of_read houtputs hread)

theorem newWrites_of_append {before after : L2Node} {added : List L2Write}
    (h : after.writes = before.writes ++ added) :
    newWrites before after = added.map L2Write.input := by
  rw [newWrites, h, List.drop_left]

theorem writtenMessages_concat {before after : L2Node} {write : L2Write} {message : L2Message}
    {id : UInt16} (h : after.writes = before.writes ++ [write])
    (hmessage : write.message = some message) (hid : id = message.header.streamId) :
    after.writtenMessages id = before.writtenMessages id ++ [message] := by
  subst hid
  rw [L2Node.writtenMessages, h, List.map_append, messagesOf_append]
  exact congrArg _ ((messagesOf_singleton hmessage).trans (if_pos rfl))

theorem temperature_of_take {message : L2Message} (h : 2 ≤ message.payload.length) :
    message.payload.take 2 = u16Bytes message.temperature := by
  obtain ⟨high, low, rest, hpayload⟩ : ∃ high low rest, message.payload = high :: low :: rest := by
    match message.payload, h with
    | high :: low :: rest, _ => exact ⟨high, low, rest, rfl⟩
  rw [L2Message.temperature, hpayload]
  exact (u16Bytes_u16OfBytes high low).symm

theorem valveState_of_take {message : L2Message} (h : 1 ≤ message.payload.length) :
    bitAt (message.payload.take 1) 0 = message.valveState := by
  obtain ⟨byte, rest, hpayload⟩ := List.exists_cons_of_length_pos h
  rw [L2Message.valveState, hpayload]
  rfl

/-- A received frame of which nothing reaches a process image. -/
theorem relayed_unwritten {plant : Plant} {net : StreamNetwork Station}
    (h : plant.Relayed secret masterMac valveMac other)
    (hchannels : Channels secret masterMac valveMac other net)
    (hsent : ∀ sender id,
      Plant.sentBy { plant with net := net } sender id = plant.sentBy sender id)
    (hwritten : ∀ receiver id,
      Plant.writtenBy { plant with net := net } receiver id = plant.writtenBy receiver id) :
    Relayed secret masterMac valveMac other { plant with net := net } where
  temperatureStream := hchannels.1
  valveStream := hchannels.2
  sensor := h.sensor
  sentTemperatures := hsent .temperature temperatureStreamId ▸ h.sentTemperatures
  input := hwritten .master temperatureStreamId ▸ h.input
  controlled := hwritten .master temperatureStreamId ▸ h.controlled
  output := h.output
  sentStates := hsent .master valveStreamId ▸ h.sentStates
  actuator := hwritten .valve valveStreamId ▸ h.actuator
  observed := hwritten .valve valveStreamId ▸ h.observed

/-- The master writes the temperature of a message to its process image. -/
theorem relayed_temperature_written {plant : Plant} {net : StreamNetwork Station}
    {message : L2Message} (h : plant.Relayed secret masterMac valveMac other)
    (hchannels : Channels secret masterMac valveMac other net)
    (hsent : ∀ sender id,
      Plant.sentBy { plant with net := net } sender id = plant.sentBy sender id)
    (hvalve : Plant.writtenBy { plant with net := net } .valve valveStreamId =
      plant.writtenBy .valve valveStreamId)
    (hwritten : Plant.writtenBy { plant with net := net } .master temperatureStreamId =
      plant.writtenBy .master temperatureStreamId ++ [message])
    (hlength : 2 ≤ message.payload.length) :
    Relayed secret masterMac valveMac other
      { plant with
        net := net
        processImage := { plant.processImage with inputImage := message.payload.take 2 } } := by
  refine ⟨hchannels.1, hchannels.2, h.sensor, hsent _ _ ▸ h.sentTemperatures,
    ⟨message.temperature, ?_, temperature_of_take hlength⟩, ?_, h.output, hsent _ _ ▸ h.sentStates,
    hvalve ▸ h.actuator, hvalve ▸ h.observed⟩
  -- the register holds the temperature written last
  · refine (congrArg (fun l => (temperatures l).getLast?) hwritten).trans ?_
    rw [temperatures_concat]
    exact List.getLast?_concat
  -- the control loop has not read it yet
  · refine (congrArg (fun l => Samples plant.controlled (temperatures l)) hwritten).mpr ?_
    rw [temperatures_concat]
    exact h.controlled.append _

/-- The valve writes the state in a message to its process image. -/
theorem relayed_state_written {plant : Plant} {net : StreamNetwork Station} {message : L2Message}
    {image : List UInt8} (h : plant.Relayed secret masterMac valveMac other)
    (hchannels : Channels secret masterMac valveMac other net)
    (hsent : ∀ sender id,
      Plant.sentBy { plant with net := net } sender id = plant.sentBy sender id)
    (hmaster : Plant.writtenBy { plant with net := net } .master temperatureStreamId =
      plant.writtenBy .master temperatureStreamId)
    (hwritten : Plant.writtenBy { plant with net := net } .valve valveStreamId =
      plant.writtenBy .valve valveStreamId ++ [message])
    (hsize : image.length = 1) (hbit : bitAt image 0 = message.valveState) :
    Relayed secret masterMac valveMac other
      { plant with
        net := net
        actuator := { plant.actuator with inputImage := image } } := by
  refine ⟨hchannels.1, hchannels.2, h.sensor, hsent _ _ ▸ h.sentTemperatures, hmaster ▸ h.input,
    hmaster ▸ h.controlled, h.output, hsent _ _ ▸ h.sentStates, ⟨hsize, ?_⟩, ?_⟩
  -- the register holds the state written last
  · refine (congrArg (fun l => (valveStates l).getLast?) hwritten).trans ?_
    rw [valveStates_concat, List.getLast?_concat, hbit]
  -- the update task has not read it yet
  · refine (congrArg (fun l => Samples plant.observed (valveStates l)) hwritten).mpr ?_
    rw [valveStates_concat]
    exact h.observed.append _

theorem relayed_receive {plant next : Plant} {station : Station} {state : DeviceState}
    {frame : Frame} (h : plant.Relayed secret masterMac valveMac other)
    (hforge : plant.net.Unforged blake3 other (station, .receive state frame))
    (hstep : plant.step blake3 (.receive station state frame) = some next) :
    next.Relayed secret masterMac valveMac other := by
  obtain ⟨net, hnet, hnext⟩ := Option.bind_eq_some_iff.mp hstep
  have hchannels := h.carries hforge hnet
  obtain ⟨hnode, hothers⟩ := StreamNetwork.step_node hnet
  obtain ⟨hsent, hwrites⟩ := L2Node.receive_adds hnode
  -- receiving sends nothing, and writes at the receiver only
  have hsentBy (sender : Station) (id : UInt32) :
      Plant.sentBy { plant with net := net } sender id = plant.sentBy sender id := by
    by_cases hsender : sender = station
    · subst hsender
      rw [sentBy, hsent, sentBy]
    · rw [sentBy, hothers sender hsender, sentBy]
  have hwrittenBy (receiver : Station) (id : UInt32) (hne : receiver ≠ station) :
      Plant.writtenBy { plant with net := net } receiver id = plant.writtenBy receiver id := by
    rw [writtenBy, hothers receiver hne, writtenBy]
  rcases hwrites with hsame | ⟨write, hadded⟩
  · rw [newWrites_of_append (hsame.trans (List.append_nil _).symm)] at hnext
    cases hnext
    apply relayed_unwritten h hchannels hsentBy
    intro receiver id
    by_cases hreceiver : receiver = station
    · subst hreceiver
      rw [writtenBy, L2Node.writtenMessages, hsame, writtenBy, L2Node.writtenMessages]
    · exact hwrittenBy receiver id hreceiver
  rw [newWrites_of_append hadded, List.map_singleton, List.foldlM_cons] at hnext
  have hmem : write ∈ (net.nodes station).writes := by
    rw [hadded]
    exact List.mem_append_right _ List.mem_cons_self
  obtain ⟨message, -, hmessage, -, stream, hstream, hid, content, hcontent, hlength, hinput⟩ :=
    (hchannels.1.written station).justified write hmem
  rw [inputs_store] at hstream
  cases station with
  -- the sensor has no Input stream
  | temperature => cases hstream
  -- the master's Input stream carries temperatures
  | master =>
    cases List.mem_singleton.mp hstream
    cases hcontent
    change 2 ≤ message.payload.length at hlength
    change write.input = ⟨message.payload.take 2, ⟨0, 0, 16⟩⟩ at hinput
    obtain ⟨temperature, -, himage⟩ := h.input
    have hold : plant.processImage.inputImage.length = 2 := by
      rw [himage]
      exact BigEndian.length_encode _ _
    have hdata : (message.payload.take 2).length = 2 := by
      rw [List.length_take, min_eq_left hlength]
    simp only [hinput, writeInputs, MasterProcessImage.writeInputs_temperature hdata hold,
      Option.bind_eq_bind, Option.bind_some, List.foldlM_nil] at hnext
    cases hnext
    exact relayed_temperature_written h hchannels hsentBy (hwrittenBy .valve _ (by decide))
      (writtenMessages_concat hadded hmessage hid) hlength
  -- the valve's Input stream carries valve states
  | valve =>
    cases List.mem_singleton.mp hstream
    cases hcontent
    change 1 ≤ message.payload.length at hlength
    change write.input = ⟨message.payload.take 1, ⟨0, 0, 1⟩⟩ at hinput
    have hdata : (message.payload.take 1).length = 1 := by
      rw [List.length_take, min_eq_left hlength]
    obtain ⟨image, hwrite, hsize, hbit⟩ := DummyHardware.writeInputs_valve hdata h.actuator.1
    simp only [hinput, writeInputs, hwrite, Option.bind_eq_bind, Option.bind_some,
      List.foldlM_nil] at hnext
    cases hnext
    exact relayed_state_written h hchannels hsentBy (hwrittenBy .master _ (by decide))
      (writtenMessages_concat hadded hmessage hid) hsize (hbit.trans (valveState_of_take hlength))

theorem relayed_step (plant : Plant) (event : PlantEvent) (next : Plant)
    (h : plant.Relayed secret masterMac valveMac other) (hforge : plant.Unforged blake3 other event)
    (hstep : plant.step blake3 event = some next) :
    next.Relayed secret masterMac valveMac other := by
  cases event with
  | sense temp => exact relayed_sense h hstep
  | control => exact relayed_control h hstep
  | watch => exact relayed_watch h hstep
  | send station state sourceMac cycleCounter stream => exact relayed_send h hstep
  | receive station state frame =>
    exact relayed_receive h (hforge station state frame rfl) hstep

/-- **The valve follows the sensor.** In every run of the demo plant, whatever the three stations
take from the segment, the valve shows decisions on readings that the sensor has had before, in
their order: it may miss readings and repeat them, but it never goes back to an older one, and it
is open only if the sensor has shown more than a hundred. -/
theorem valve_follows_sensor {events : List PlantEvent} {plant : Plant}
    (hrun : execute (step blake3) (start secret masterMac valveMac) events = some plant)
    (hforge : EveryStep (step blake3) (Unforged blake3 other) (start secret masterMac valveMac)
      events) :
    Samples plant.observed (plant.sensed.map valveOpen) ∧
      (true ∈ plant.observed → ∃ temperature ∈ plant.sensed, 100 < temperature) := by
  have hrelayed := execute_invariant_of_guarded relayed_step relayed_start hforge hrun
  have hsamples := hrelayed.observed_samples_sensed
  refine ⟨hsamples, fun hopen => ?_⟩
  obtain ⟨temperature, hmem, hdecision⟩ := List.mem_map.mp (hsamples.mem hopen)
  exact ⟨temperature, hmem, of_decide_eq_true hdecision⟩

/-- What a station takes has been put on the segment before. -/
def Forwarded (plant : Plant) (event : PlantEvent) : Prop :=
  match event with
  | .receive station state frame => plant.net.Forwarded (station, .receive state frame)
  | _ => True

instance (plant : Plant) (event : PlantEvent) : Decidable (plant.Forwarded event) := by
  unfold Forwarded
  cases event <;> exact inferInstance

theorem Forwarded.unforged {plant : Plant} {event : PlantEvent} (h : plant.Forwarded event) :
    plant.Unforged blake3 other event := by
  rintro station state frame rfl
  exact StreamNetwork.Forwarded.unforged h

/-- The first frame of a stream in the demo. -/
def firstFrame (destination : MacAddr) (id : UInt32) (payload : List UInt8) : Frame :=
  buildL2Frame .zero destination (buildVlanTag 100 6) (.new id.toUInt16 0 0) payload
    ⟨1, tagOf checksumHash zeroSecret (signedL2Bytes (.new id.toUInt16 0 0) payload 1)⟩

/-- A reading of 120 degrees reaches the valve, and the sensor has cooled down by then. -/
def overheatedRun : List PlantEvent :=
  [.watch, .sense 120, .send .temperature .op .zero 0 (temperatureStream .zero .output), .sense 90,
    .receive .master .op (firstFrame .zero temperatureStreamId [0, 120]), .control,
    .send .master .op .zero 0 (TsnFieldbus.valveStream valveSlaveMac .output),
    .receive .valve .op (firstFrame valveSlaveMac valveStreamId [1]), .watch]

/-- The valve opens. -/
theorem valve_follows_sensor_overheated :
    ∃ plant,
      execute (step checksumHash) (start zeroSecret .zero valveSlaveMac) overheatedRun =
        some plant ∧
      plant.observed = [false, true] ∧ plant.sensed = [0, 120, 90] ∧
      (Samples plant.observed (plant.sensed.map valveOpen) ∧
        (true ∈ plant.observed → ∃ temperature ∈ plant.sensed, 100 < temperature)) := by
  have hends : (execute (step checksumHash) (start zeroSecret .zero valveSlaveMac)
      overheatedRun).map (fun plant => (plant.observed, plant.sensed)) =
        some ([false, true], [0, 120, 90]) := by
    decide +kernel
  have hforwarded : EveryStep (step checksumHash) Forwarded (start zeroSecret .zero valveSlaveMac)
      overheatedRun := by decide +kernel
  obtain ⟨plant, hrun, hhistory⟩ := Option.map_eq_some_iff.mp hends
  obtain ⟨hobserved, hsensed⟩ := Prod.mk.inj hhistory
  refine ⟨plant, hrun, hobserved, hsensed, ?_⟩
  exact @valve_follows_sensor checksumHash zeroSecret .zero valveSlaveMac ⟨[], [], by simp⟩ _ _ hrun
    (hforwarded.imp fun _ _ => Forwarded.unforged)

end Plant

end TsnFieldbus
