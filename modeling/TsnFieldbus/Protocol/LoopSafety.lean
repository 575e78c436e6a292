import TsnFieldbus.Common.L2Format
import TsnFieldbus.Common.StreamBatch
import TsnFieldbus.Master.ReceiverLoop
import TsnFieldbus.Master.SenderLoop
import TsnFieldbus.Slave.ReceiverLoop

/-!
# Loops Without Panics

The four L2 loops on the streams of a store, with every operation checked. The stream store
admits a stream when its identifier fits and its direction is known; that is not all the
sender loops rely on.

- `receiveSlaveFrameChecked_eq`, `receiveMasterFrameChecked_eq`: no frame makes a receiver panic.
- `loopsSafe_of_lengths`: which streams the loops can run on.
- `loopsSafe_iff`: the stores on whose streams no loop panics.
-/

namespace TsnFieldbus

open Foundations

/-! ## The receivers -/

/-- `metricReports` with the division checked. -/
def metricReportsChecked (locals : ReceiverLocals) (recorded : Bool) :
    Option (List StatusUpdate) :=
  if recorded then
    locals.receiveMetrics.valuesChecked.map (fun values =>
      match values with
      | some (minNs, maxNs, averageNs) => [.receiveCycleMetrics minNs maxNs averageNs]
      | none => [])
  else some []

theorem metricReportsChecked_eq (locals : ReceiverLocals) (recorded : Bool) :
    metricReportsChecked locals recorded = some (metricReports locals recorded) := by
  unfold metricReportsChecked metricReports
  rw [CycleMetrics.valuesChecked_eq]
  cases recorded with
  | false => rfl
  | true => cases locals.receiveMetrics.values <;> rfl

/-- The slave's loop body on a received frame. -/
def receiveSlaveFrameChecked (blake3 : KeyedHash) (streamMap : HashMap UInt16 StreamConfig)
    (locals : ReceiverLocals) (input : LoopInput) (frame : Frame) : Option SlavePass := do
  match ← parseL2FrameChecked frame with
  | .error .errInvalidEthertype => some ⟨[], none, locals, input.store⟩
  | .error _ => some ⟨[.statusCode .errFrameParsing], none, locals, input.store⟩
  | .ok parsed =>
    match streamMap.lookup parsed.header.streamId with
    | none => some ⟨[.statusCode .errStreamIdUnknown], none, locals, input.store⟩
    | some stream =>
      match input.store.validateStreamTag blake3 parsed.header parsed.payload
        parsed.sequenceNumber parsed.authTag with
      | (.error code, store) => some ⟨[.statusCode code], none, locals, store⟩
      | (.ok false, store) => some ⟨[.statusCode .errAuthFailed], none, locals, store⟩
      | (.ok true, store) =>
        if parsed.header.status ≠ StatusCode.noError.toU8 then
          some ⟨[.statusCode .errFrameWithErrorStatus], none, locals, store⟩
        else do
          let missedCycles ← locals.missedCyclesChecked stream parsed.header
          let locals := locals.rememberCounter parsed.header
          let (locals, recorded) :=
            locals.recordReception stream parsed.header.streamId input.now
          let metrics ← metricReportsChecked locals recorded
          let (written, result) ← deliverInputChecked input.writeInputs stream parsed.payload
          some ⟨cycleReports missedCycles ++ metrics ++ deliveryReports result, written, locals,
            store⟩

/-- The master's loop body on a received frame. -/
def receiveMasterFrameChecked (blake3 : KeyedHash) (streamMap : HashMap UInt16 StreamConfig)
    (locals : MasterReceiverLocals) (input : LoopInput) (frame : Frame) : Option MasterPass := do
  match ← parseL2FrameChecked frame with
  | .error _ => some ⟨none, none, locals, input.store⟩
  | .ok parsed =>
    match streamMap.lookup parsed.header.streamId with
    | none => some ⟨none, none, locals, input.store⟩
    | some stream =>
      match input.store.validateStreamTag blake3 parsed.header parsed.payload
        parsed.sequenceNumber parsed.authTag with
      | (.error _, store) => some ⟨none, none, locals, store⟩
      | (.ok false, store) => some ⟨none, none, locals, store⟩
      | (.ok true, store) =>
        if parsed.header.status ≠ StatusCode.noError.toU8 then some ⟨none, none, locals, store⟩
        else do
          let mismatch ← locals.missedCyclesChecked stream parsed.header
          let missedCyclesTotal :=
            match mismatch with
            | some missedCycles => saturatingAdd locals.missedCyclesTotal missedCycles.toUInt64
            | none => locals.missedCyclesTotal
          let common := locals.rememberCounter parsed.header
          let common :=
            if input.state = .op then
              (common.recordReception stream parsed.header.streamId input.now).1
            else common
          let (written, _) ← deliverInputChecked input.writeInputs stream parsed.payload
          some ⟨mismatch, written, ⟨common, missedCyclesTotal⟩, store⟩

section Receivers

variable (blake3 : KeyedHash) (streamMap : HashMap UInt16 StreamConfig)

/-- No operation of the slave's loop body fails, whatever the frame and the stream. -/
theorem receiveSlaveFrameChecked_eq (locals : ReceiverLocals) (input : LoopInput)
    (frame : Frame) :
    receiveSlaveFrameChecked blake3 streamMap locals input frame =
      some (receiveSlaveFrame blake3 streamMap locals input frame) := by
  unfold receiveSlaveFrameChecked receiveSlaveFrame
  -- each checked part is the part; the branches are the same
  simp only [parseL2FrameChecked_eq, ReceiverLocals.missedCyclesChecked_eq,
    metricReportsChecked_eq, deliverInputChecked_eq, Option.bind_eq_bind, Option.bind_some]
  cases parseL2Frame frame with
  | error code => cases code <;> rfl
  | ok parsed =>
    dsimp only
    cases streamMap.lookup parsed.header.streamId with
    | none => rfl
    | some stream =>
      dsimp only
      rcases input.store.validateStreamTag blake3 parsed.header parsed.payload
        parsed.sequenceNumber parsed.authTag with ⟨result, next⟩
      rcases result with code | valid
      · rfl
      · cases valid with
        | false => rfl
        | true =>
          dsimp only
          split <;> rfl

/-- No operation of the master's loop body fails. -/
theorem receiveMasterFrameChecked_eq (locals : MasterReceiverLocals) (input : LoopInput)
    (frame : Frame) :
    receiveMasterFrameChecked blake3 streamMap locals input frame =
      some (receiveMasterFrame blake3 streamMap locals input frame) := by
  unfold receiveMasterFrameChecked receiveMasterFrame
  simp only [parseL2FrameChecked_eq, ReceiverLocals.missedCyclesChecked_eq,
    deliverInputChecked_eq, Option.bind_eq_bind, Option.bind_some]
  cases parseL2Frame frame with
  | error code => rfl
  | ok parsed =>
    dsimp only
    cases streamMap.lookup parsed.header.streamId with
    | none => rfl
    | some stream =>
      dsimp only
      rcases input.store.validateStreamTag blake3 parsed.header parsed.payload
        parsed.sequenceNumber parsed.authTag with ⟨result, next⟩
      rcases result with code | valid
      · rfl
      · cases valid with
        | false => rfl
        | true =>
          dsimp only
          split <;> rfl

/-- The end of a receiver thread, which logs its metrics. -/
def receiverExit {σ : Type} (common : ReceiverLocals) (locals : σ) : PassEnd σ :=
  match common.receiveMetrics.valuesChecked, common.receiveJitterMetrics.valuesChecked with
  | some _, some _ => .exits locals
  | _, _ => .panics

/-- One pass of the slave's receiver loop. -/
def slaveReceiverPass (locals : ReceiverLocals) (input : LoopInput) : PassEnd ReceiverLocals :=
  let locals := locals.observe input.state
  if input.state = .safeOp then .continues locals
  else if input.state ≠ .op then receiverExit locals locals
  else
    match input.received with
    | none => .continues locals
    | some frame =>
      .ofChecked ((receiveSlaveFrameChecked blake3 streamMap locals input frame).map (·.locals))

/-- One pass of the master's receiver loop. -/
def masterReceiverPass (locals : MasterReceiverLocals) (input : LoopInput) :
    PassEnd MasterReceiverLocals :=
  let locals : MasterReceiverLocals :=
    ⟨locals.toReceiverLocals.observe input.state, locals.missedCyclesTotal⟩
  if input.state ≠ .op ∧ input.state ≠ .safeOp then
    receiverExit locals.toReceiverLocals locals
  else
    match input.received with
    | none => .continues locals
    | some frame =>
      .ofChecked ((receiveMasterFrameChecked blake3 streamMap locals input frame).map (·.locals))

theorem receiverExit_eq {σ : Type} (common : ReceiverLocals) (locals : σ) :
    receiverExit common locals = .exits locals := by
  rw [receiverExit, CycleMetrics.valuesChecked_eq, CycleMetrics.valuesChecked_eq]

/-- A pass is the one without the checks. -/
theorem slaveReceiverPass_eq (locals : ReceiverLocals) (input : LoopInput) :
    slaveReceiverPass blake3 streamMap locals input =
      match slavePass blake3 streamMap locals input with
      | some pass => .continues pass.locals
      | none => .exits (locals.observe input.state) := by
  unfold slaveReceiverPass slavePass
  simp only [receiverExit_eq, receiveSlaveFrameChecked_eq, Option.map_some]
  split
  · rfl
  · split
    · rfl
    · cases input.received <;> rfl

theorem masterReceiverPass_eq (locals : MasterReceiverLocals) (input : LoopInput) :
    masterReceiverPass blake3 streamMap locals input =
      match masterPass blake3 streamMap locals input with
      | some pass => .continues pass.locals
      | none => .exits ⟨locals.toReceiverLocals.observe input.state, locals.missedCyclesTotal⟩ := by
  unfold masterReceiverPass masterPass
  simp only [receiverExit_eq, receiveMasterFrameChecked_eq, Option.map_some]
  split
  · rfl
  · cases input.received <;> rfl

/-- No run of the slave's receiver panics. -/
theorem slaveReceiver_ne_panics (locals : ReceiverLocals) (inputs : List LoopInput) :
    runLoop (slaveReceiverPass blake3 streamMap) locals inputs ≠ .panics := by
  apply runLoop_ne_panics
  intro locals input _
  rw [slaveReceiverPass_eq]
  cases slavePass blake3 streamMap locals input <;> simp

/-- No run of the master's receiver panics. -/
theorem masterReceiver_ne_panics (locals : MasterReceiverLocals) (inputs : List LoopInput) :
    runLoop (masterReceiverPass blake3 streamMap) locals inputs ≠ .panics := by
  apply runLoop_ne_panics
  intro locals input _
  rw [masterReceiverPass_eq]
  cases masterPass blake3 streamMap locals input <;> simp

end Receivers

/-! ## The senders -/

section Senders

variable (blake3 : KeyedHash) (sourceMac : MacAddr)

/-- A turn of a stream with a whole address does not panic. -/
theorem slaveTurn_ne_panics (state : DeviceState) (locals : SenderLocals)
    {item : StreamConfig × SenderInput} (h : 6 ≤ item.1.destinationMac.length) :
    slaveTurn blake3 sourceMac state locals item ≠ .panics := by
  rw [slaveTurn, PassEnd.ofChecked_ne_panics, Option.isSome_map,
    serveSlaveStream_isSome_iff]
  exact fun _ => h

theorem masterTurn_ne_panics (state : DeviceState) (locals : SenderLocals)
    {item : StreamConfig × SenderInput} (h : 6 ≤ item.1.destinationMac.length) :
    masterTurn blake3 sourceMac state locals item ≠ .panics := by
  unfold masterTurn
  split
  · intro hpanics
    cases hpanics
  · rw [PassEnd.ofChecked_ne_panics, Option.isSome_map, serveMasterStream_eq, Option.isSome_map,
      serveSlaveStream_isSome_iff]
    exact fun _ => h

/-- A stream's turn at the instant zero, in Op and with an empty image. -/
def firstTurn : SenderInput :=
  { state := .op
    checkedAt := 0
    now := 0
    readOutputs := fun _ => .ok []
    cycleCounter := 0
    store := .new zeroSecret
    sendFails := false }

/-- A pass of such turns. -/
def firstPass : SenderPassInput :=
  { state := .op
    turn := fun _ => firstTurn }

theorem turns_firstPass (streams : List StreamConfig) :
    firstPass.turns streams = streams.map (fun stream => (stream, firstTurn)) := by
  have hstreams := List.zipIdx_map_fst 0 streams
  conv_rhs => rw [← hstreams, List.map_map]
  rfl

/-- Streams that were not sent yet are due one after the other, so that a pass that does not
panic has found a whole address in each. -/
theorem lengths_of_firstPass {streams : List StreamConfig}
    (hids : (streams.map (·.streamId.toUInt16)).Nodup) {locals : SenderLocals}
    (hunsent : ∀ stream ∈ streams, locals.lastSent.lookup stream.streamId.toUInt16 = none)
    (hrun : runLoop (slaveTurn blake3 sourceMac .op) locals
      (streams.map (fun stream => (stream, firstTurn))) ≠ .panics) :
    ∀ stream ∈ streams, 6 ≤ stream.destinationMac.length := by
  induction streams generalizing locals with
  | nil =>
    intro stream hmem
    cases hmem
  | cons head rest ih =>
    rw [List.map_cons, List.nodup_cons] at hids
    -- a stream never sent is due at once, so its address is read
    have hdue := SenderLocals.due_of_unsent (max head.cycleTimeNano 1) firstTurn.checkedAt
      (hunsent head List.mem_cons_self)
    have hserve := serveSlaveStream_isSome_iff blake3 sourceMac .op locals head firstTurn
    rw [List.map_cons, runLoop, slaveTurn] at hrun
    cases hturn : serveSlaveStream blake3 sourceMac .op locals head firstTurn with
    | none =>
      rw [hturn] at hrun
      exact absurd rfl hrun
    | some turn =>
      rw [hturn] at hrun hserve
      have hhead := hserve.mp rfl hdue
      refine List.forall_mem_cons.mpr ⟨hhead, @ih hids.2 turn.locals ?_ hrun⟩
      -- the turn of the head leaves the others unsent
      intro stream hmem
      have hold := hunsent stream (List.mem_cons_of_mem _ hmem)
      rcases lastSent_of_serveSlaveStream hturn with hsame | hinsert
      · rw [hsame]
        exact hold
      -- the head has another id
      · have hne : stream.streamId.toUInt16 ≠ head.streamId.toUInt16 := by
          intro heq
          exact hids.1 (heq ▸ List.mem_map_of_mem hmem)
        rw [hinsert, AList.lookup_insert_ne hne]
        exact hold

end Senders

/-! ## What the store admits -/

/-- The calls that change a stream store. -/
inductive StoreCall where
  | addStreamConfig (streamConfig : StreamConfig)
  | addStreamConfigs (streamConfigurations : List StreamConfig)
  | reset
  | generateStreamTag (header : L2Header) (payload : List UInt8)
  | validateStreamTag (header : L2Header) (payload : List UInt8) (sequenceNumber : UInt64)
      (authTag : AuthTag)

namespace StreamStore

variable (blake3 : KeyedHash)

/-- The store after a call, whether it succeeds or not. -/
def call (store : StreamStore) : StoreCall → StreamStore
  | .addStreamConfig streamConfig =>
    match store.addStreamConfig streamConfig with
    | .ok next => next
    | .error _ => store
  | .addStreamConfigs streamConfigurations => (store.addStreamConfigs streamConfigurations).2
  | .reset => store.reset
  | .generateStreamTag header payload => (store.generateStreamTag blake3 header payload).2
  | .validateStreamTag header payload sequenceNumber authTag =>
    (store.validateStreamTag blake3 header payload sequenceNumber authTag).2

/-- The store after a sequence of calls. -/
def afterCalls (secret : Secret) (calls : List StoreCall) : StreamStore :=
  calls.foldl (call blake3) (.new secret)

/-- Every stream is filed under its own identifier. -/
def Keyed (store : StreamStore) : Prop :=
  ∀ id e, store.entry id = some e → streamIdAsU16 e.streamConfig.streamId = .ok id

theorem Keyed.withEntry {store : StreamStore} (h : store.Keyed) {id : UInt16} {e : StreamEntry}
    (hid : streamIdAsU16 e.streamConfig.streamId = .ok id) : (store.withEntry id e).Keyed := by
  intro other e' hentry
  by_cases heq : other = id
  · subst heq
    rw [entry_withEntry, Option.some.injEq] at hentry
    subst hentry
    exact hid
  · rw [entry_withEntry_ne heq] at hentry
    exact h other e' hentry

theorem Keyed.insertStreamConfigs {store : StreamStore} (h : store.Keyed)
    (configs : List StreamConfig) : (store.insertStreamConfigs configs).2.Keyed := by
  intro id e hentry
  rcases insertStreamConfigs_entry hentry with hold | ⟨-, hid, -⟩
  · exact h id e hold
  · exact hid

/-- Every call keeps the streams under their identifiers. -/
theorem Keyed.call {store : StreamStore} (h : store.Keyed) (storeCall : StoreCall) :
    (store.call blake3 storeCall).Keyed := by
  cases storeCall with
  -- an entry is put under the id it carries
  | addStreamConfig streamConfig =>
    simp only [StreamStore.call]
    split
    · rename_i next hadd
      obtain ⟨id, seq, hid, -, -, rfl⟩ := addStreamConfig_eq_ok hadd
      exact h.withEntry hid
    · exact h
  | addStreamConfigs streamConfigurations =>
    simp only [StreamStore.call, StreamStore.addStreamConfigs]
    split
    · exact h
    · exact h.insertStreamConfigs streamConfigurations
  -- an empty store has no entry to check
  | reset =>
    intro id e hentry
    cases hentry
  -- tags move a counter of an entry that is already there
  | generateStreamTag header payload =>
    simp only [StreamStore.call]
    cases hentry : store.entry header.streamId with
    | none =>
      simp only [StreamStore.generateStreamTag, hentry]
      exact h
    | some e =>
      rw [generateStreamTag_eq blake3 hentry]
      exact h.withEntry (h _ e hentry)
  | validateStreamTag header payload sequenceNumber authTag =>
    simp only [StreamStore.call]
    rcases validateStreamTag_cases blake3 store header payload sequenceNumber authTag with
      ⟨-, -, hsame⟩ | ⟨e, hentry, -, -, heq⟩
    · rw [hsame]
      exact h
    · rw [heq]
      exact h.withEntry (h _ e hentry)

theorem keyed_afterCalls (secret : Secret) (calls : List StoreCall) :
    (afterCalls blake3 secret calls).Keyed := by
  have hnew : (StreamStore.new secret).Keyed := fun _ _ hentry => by cases hentry
  unfold afterCalls
  generalize StreamStore.new secret = store at hnew
  induction calls generalizing store with
  | nil => exact hnew
  | cons storeCall rest ih => exact ih _ (hnew.call blake3 storeCall)

/-- No two of the listed streams share their identifier on the wire. -/
theorem Keyed.nodup_ids {store : StreamStore} (h : store.Keyed) (direction : Direction) :
    ((store.getStreamsByDirection direction).map (·.streamId.toUInt16)).Nodup := by
  have hkeys : (store.streams.entries.map (·.2.streamConfig)).map (·.streamId.toUInt16) =
      store.streams.keys := by
    rw [List.map_map]
    apply List.map_congr_left
    intro entry hmem
    exact streamIdAsU16_eq_ok (h entry.1 entry.2 (AList.mem_lookup_iff.mpr hmem))
  have hnodup := store.streams.keys_nodup
  rw [← hkeys] at hnodup
  exact hnodup.sublist (List.filter_sublist.map _)

/-! ## Safety -/

/-- None of the four loops panics in any run on the streams of the store. -/
structure LoopsSafe (store : StreamStore) : Prop where
  slaveReceiver : ∀ inputs, runLoop (slaveReceiverPass blake3
    (receiverStreamMap (store.getStreamsByDirection .input))) .start inputs ≠ .panics
  masterReceiver : ∀ inputs, runLoop (masterReceiverPass blake3
    (receiverStreamMap (store.getStreamsByDirection .input))) ⟨.start, 0⟩ inputs ≠ .panics
  slaveSender : ∀ sourceMac inputs, senderRun (slaveSenderPass blake3 sourceMac
    (store.getStreamsByDirection .output)) (store.getStreamsByDirection .output) inputs ≠ .panics
  masterSender : ∀ sourceMac inputs, senderRun (masterSenderPass blake3 sourceMac
    (store.getStreamsByDirection .output)) (store.getStreamsByDirection .output) inputs ≠ .panics

theorem loopsSafe_of_lengths {store : StreamStore}
    (h : ∀ stream ∈ store.getStreamsByDirection .output, 6 ≤ stream.destinationMac.length) :
    store.LoopsSafe blake3 where
  slaveReceiver := slaveReceiver_ne_panics blake3 _ _
  masterReceiver := masterReceiver_ne_panics blake3 _ _
  slaveSender := fun sourceMac => senderRun_ne_panics (fun state locals item hmem =>
    slaveTurn_ne_panics blake3 sourceMac state locals (h item.1 hmem))
  masterSender := fun sourceMac => senderRun_ne_panics (fun state locals item hmem =>
    masterTurn_ne_panics blake3 sourceMac state locals (h item.1 hmem))

/-- **When the loops cannot panic**: whatever calls the store has received, no run of the four
loops on its streams panics if and only if every Output stream it holds has a destination
address of at least six bytes. -/
theorem loopsSafe_iff (secret : Secret) (calls : List StoreCall) :
    (afterCalls blake3 secret calls).LoopsSafe blake3 ↔
      ∀ stream ∈ (afterCalls blake3 secret calls).getStreamsByDirection .output,
        6 ≤ stream.destinationMac.length := by
  refine ⟨fun hsafe => ?_, loopsSafe_of_lengths blake3⟩
  have hrun := hsafe.slaveSender ⟨0, 0, 0, 0, 0, 0⟩ [firstPass]
  rw [senderRun_eq, runLoop, slaveSenderPass, senderPass, turns_firstPass] at hrun
  refine @lengths_of_firstPass blake3 ⟨0, 0, 0, 0, 0, 0⟩ _
    ((keyed_afterCalls blake3 secret calls).nodup_ids .output) (SenderLocals.start.observe .op)
    (fun _ _ => rfl) ?_
  intro hpanics
  apply hrun
  have hop : ¬ (firstPass.state ≠ .op ∧ firstPass.state ≠ .safeOp) := fun h => h.1 rfl
  rw [if_neg hop]
  simp only [firstPass] at hpanics ⊢
  rw [hpanics]

/-- An output stream whose destination address is empty. -/
def addresslessStream : StreamConfig :=
  { streamId := 5
    destinationMac := []
    vlanIdPcp := 0
    cycleTimeNano := 250000
    direction := 1
    streamContent := some ⟨0, 0, 8⟩ }

/-- The stream is admitted, and the first pass of the master's sender panics on it. -/
theorem admitted_stream_panics :
    ((StreamStore.new zeroSecret).addStreamConfig addresslessStream).toOption =
      some (afterCalls checksumHash zeroSecret [.addStreamConfig addresslessStream]) ∧
    senderRun (masterSenderPass checksumHash ⟨0, 0, 0, 0, 0, 1⟩
        ((afterCalls checksumHash zeroSecret
          [.addStreamConfig addresslessStream]).getStreamsByDirection .output))
      ((afterCalls checksumHash zeroSecret
        [.addStreamConfig addresslessStream]).getStreamsByDirection .output) [firstPass] =
      .panics :=
  ⟨rfl, rfl⟩

end StreamStore

end TsnFieldbus
