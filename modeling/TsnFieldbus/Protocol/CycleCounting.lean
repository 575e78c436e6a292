import TsnFieldbus.Master.ReceiverLoop
import TsnFieldbus.Slave.ReceiverLoop

/-!
# Counting Missed Cycles

What the receiver loops of slave and master make of the cycle counters of their streams. The
sender counts modulo 65535, the receivers compare modulo 65536.

- `steady_stream_counts_nothing_iff`: frames sent within the tolerance are counted as missed
  exactly at the far edge of the window, across a restart of the sender's counter.
- `lost_frames_counted`: lost frames are counted from the second on.
- `out_of_window_frame_unwritten_iff`: the comparison keeps no frame from the process image.
-/

namespace TsnFieldbus

open Foundations

/-! ## One accepted frame -/

/-- The slave's pass counts no missed cycle, and `ErrCycleCounter` is reported only if the
process image itself answers with it. -/
def SlavePass.CountsNothing (pass : SlavePass) (input : LoopInput) : Prop :=
  (pass.reports.map StatusUpdate.missed).sum = 0 ∧
    (.statusCode .errCycleCounter ∈ pass.reports → ∃ write, pass.written = some write ∧
      input.writeInputs write = .error .errCycleCounter)

/-- The master's pass warns of no mismatch and leaves its total. -/
def MasterPass.CountsNothing (pass : MasterPass) (before : MasterReceiverLocals) : Prop :=
  pass.mismatch = none ∧ pass.locals.missedCyclesTotal = before.missedCyclesTotal

variable {blake3 : KeyedHash} {streamMap : HashMap UInt16 StreamConfig} {input : LoopInput}
  {parsed : ParsedL2Frame} {stream : StreamConfig}

/-- The reports of an accepted frame begin with those of the comparison. -/
theorem slavePass_reports {locals : ReceiverLocals} {pass : SlavePass}
    (h : Accepted blake3 streamMap slaveActive input parsed stream)
    (hpass : slavePass blake3 streamMap locals input = some pass) :
    ∃ rest, pass.reports =
      cycleReports ((locals.observe input.state).missedCycles stream parsed.header) ++ rest := by
  obtain ⟨frame, haccepts, heq⟩ := slavePass_of_accepted locals h
  obtain rfl := Option.some.inj (heq.symm.trans hpass)
  obtain ⟨hreports, -, -⟩ := receiveSlaveFrame_of_accepted (locals.observe input.state) haccepts
  rw [hreports, List.append_assoc]
  exact ⟨_, rfl⟩

/-- The reports of an accepted frame carry the count of the comparison, and no other. -/
theorem missed_slavePass {locals : ReceiverLocals} {pass : SlavePass}
    (h : Accepted blake3 streamMap slaveActive input parsed stream)
    (hpass : slavePass blake3 streamMap locals input = some pass) :
    (pass.reports.map StatusUpdate.missed).sum =
      ((locals.observe input.state).missedCycles stream parsed.header).elim 0 UInt32.toNat := by
  obtain ⟨frame, haccepts, heq⟩ := slavePass_of_accepted locals h
  obtain rfl := Option.some.inj (heq.symm.trans hpass)
  obtain ⟨hreports, -, -⟩ := receiveSlaveFrame_of_accepted (locals.observe input.state) haccepts
  rw [hreports, List.map_append, List.map_append, List.sum_append, List.sum_append]
  -- reports of metrics and of deliveries count no cycle
  have hmetric : ∀ (after : ReceiverLocals) (recorded : Bool),
      ((metricReports after recorded).map StatusUpdate.missed).sum = 0 := by
    intro after recorded
    unfold metricReports
    split
    · split <;> rfl
    · rfl
  have hdelivery : ∀ result : Except StatusCode Unit,
      ((deliveryReports result).map StatusUpdate.missed).sum = 0 := by
    intro result
    rcases result with code | ⟨⟩ <;> rfl
  rw [hmetric, hdelivery]
  cases (locals.observe input.state).missedCycles stream parsed.header <;>
    simp [cycleReports, StatusUpdate.missed]

/-- Nothing is counted exactly when the comparison passes. -/
theorem slavePass_countsNothing_iff {locals : ReceiverLocals} {pass : SlavePass}
    (h : Accepted blake3 streamMap slaveActive input parsed stream)
    (hpass : slavePass blake3 streamMap locals input = some pass) :
    pass.CountsNothing input ↔
      (locals.observe input.state).missedCycles stream parsed.header = none := by
  have hmissed := missed_slavePass h hpass
  unfold SlavePass.CountsNothing
  rw [hmissed]
  cases hcycle : (locals.observe input.state).missedCycles stream parsed.header with
  | some missed =>
    obtain ⟨last, -, hcheck⟩ := Option.bind_eq_some_iff.mp hcycle
    have hpos := cycleCheck_pos hcheck
    simp only [Option.elim_some, reduceCtorEq, iff_false, not_and]
    omega
  | none =>
    simp only [Option.elim_none, true_and, iff_true]
    obtain ⟨frame, haccepts, heq⟩ := slavePass_of_accepted locals h
    obtain rfl := Option.some.inj (heq.symm.trans hpass)
    obtain ⟨hreports, hwritten, -⟩ :=
      receiveSlaveFrame_of_accepted (locals.observe input.state) haccepts
    rw [hreports, hwritten, hcycle]
    intro hmem
    -- only the delivery is left to report it
    have hdelivery : .statusCode .errCycleCounter ∈
        deliveryReports (deliverInput input.writeInputs stream parsed.payload).2 := by
      rcases List.mem_append.mp hmem with hfront | hdelivery
      · rcases List.mem_append.mp hfront with hcycleReport | hmetric
        · cases hcycleReport
        · unfold metricReports at hmetric
          split at hmetric
          · split at hmetric <;> simp at hmetric
          · cases hmetric
      · exact hdelivery
    rcases handleInputPacket_cases stream parsed.payload with
      ⟨-, hinput⟩ | ⟨content, -, -, hinput⟩ | ⟨content, -, -, hinput⟩
    · simp [deliverInput, hinput, deliveryReports] at hdelivery
    · simp [deliverInput, hinput, deliveryReports] at hdelivery
    · simp only [deliverInput, hinput] at hdelivery ⊢
      refine ⟨_, rfl, ?_⟩
      unfold deliveryReports at hdelivery
      split at hdelivery
      · rename_i code hresult
        rw [hresult]
        rw [List.mem_singleton, StatusUpdate.statusCode.injEq] at hdelivery
        rw [hdelivery]
      · cases hdelivery

/-- The master's count is that of the comparison. -/
theorem masterPass_mismatch {locals : MasterReceiverLocals} {pass : MasterPass}
    (h : Accepted blake3 streamMap masterActive input parsed stream)
    (hpass : masterPass blake3 streamMap locals input = some pass) :
    pass.mismatch =
        (locals.toReceiverLocals.observe input.state).missedCycles stream parsed.header ∧
      pass.locals.missedCyclesTotal = pass.mismatch.elim locals.missedCyclesTotal
        (fun missed => saturatingAdd locals.missedCyclesTotal missed.toUInt64) := by
  obtain ⟨frame, haccepts, heq⟩ := masterPass_of_accepted locals h
  obtain rfl := Option.some.inj (heq.symm.trans hpass)
  obtain ⟨hmismatch, htotal, -⟩ := receiveMasterFrame_of_accepted
    ⟨locals.toReceiverLocals.observe input.state, locals.missedCyclesTotal⟩ haccepts
  exact ⟨hmismatch, hmismatch ▸ htotal⟩

theorem masterPass_countsNothing_iff {locals : MasterReceiverLocals} {pass : MasterPass}
    (h : Accepted blake3 streamMap masterActive input parsed stream)
    (hpass : masterPass blake3 streamMap locals input = some pass) :
    pass.CountsNothing locals ↔
      (locals.toReceiverLocals.observe input.state).missedCycles stream parsed.header = none := by
  obtain ⟨hmismatch, htotal⟩ := masterPass_mismatch h hpass
  rw [← hmismatch]
  refine ⟨fun hnothing => hnothing.1, fun hnone => ⟨hnone, ?_⟩⟩
  rw [htotal, hnone, Option.elim_none]

/-! ## Two consecutive frames -/

section Consecutive

variable {first second : LoopInput} {between : List LoopInput} {parsed₁ parsed₂ : ParsedL2Frame}

/-- What the second of two consecutive frames counts. -/
def countedBetween (stream : StreamConfig) (first : LoopInput) (between : List LoopInput)
    (second : LoopInput) (parsed₁ parsed₂ : ParsedL2Frame) : Option UInt32 :=
  if ∀ input ∈ between ++ [second], input.state = first.state then
    cycleCheck stream.cycleTimeNano parsed₁.header.cycleCounter parsed₂.header.cycleCounter
  else none

/-- The slave's comparison of consecutive frames. -/
theorem slave_missedCycles {locals mid : ReceiverLocals}
    (h : Consecutive blake3 streamMap slaveActive first between second parsed₁ parsed₂ stream)
    (hrun : execute (slaveStep blake3 streamMap) locals (first :: between) = some mid) :
    (mid.observe second.state).missedCycles stream parsed₂.header =
      countedBetween stream first between second parsed₁ parsed₂ :=
  missedCycles_of_consecutive id slaveStep_tracks h hrun

/-- The master's comparison of consecutive frames. -/
theorem master_missedCycles {locals mid : MasterReceiverLocals}
    (h : Consecutive blake3 streamMap masterActive first between second parsed₁ parsed₂ stream)
    (hrun : execute (masterStep blake3 streamMap) locals (first :: between) = some mid) :
    (mid.toReceiverLocals.observe second.state).missedCycles stream parsed₂.header =
      countedBetween stream first between second parsed₁ parsed₂ :=
  missedCycles_of_consecutive MasterReceiverLocals.toReceiverLocals masterStep_tracks h hrun

/-- **A steady stream.** Two consecutive frames that were sent a cycle apart, up to the tolerance,
count as missed cycles if and only if no change of state lies between them, the second is late
by the full tolerance, and the sender's counter has started again since the first. -/
theorem steady_stream_counts_nothing_iff {micros₁ micros₂ : ℕ}
    (htolerance : (toleranceTicks stream.cycleTimeNano).toNat < 32768)
    (hcounter₁ : parsed₁.header.cycleCounter = cycleCounter micros₁)
    (hcounter₂ : parsed₂.header.cycleCounter = cycleCounter micros₂)
    (hsent : SentInWindow stream.cycleTimeNano (ticksSinceEpoch micros₁)
      (ticksSinceEpoch micros₂)) :
    (∀ locals mid pass,
      Consecutive blake3 streamMap slaveActive first between second parsed₁ parsed₂ stream →
      execute (slaveStep blake3 streamMap) locals (first :: between) = some mid →
      slavePass blake3 streamMap mid second = some pass →
      (pass.CountsNothing second ↔
        (∃ input ∈ between ++ [second], input.state ≠ first.state) ∨
        ¬ RestartsAtEdge stream.cycleTimeNano (ticksSinceEpoch micros₁)
          (ticksSinceEpoch micros₂))) ∧
    (∀ locals mid pass,
      Consecutive blake3 streamMap masterActive first between second parsed₁ parsed₂ stream →
      execute (masterStep blake3 streamMap) locals (first :: between) = some mid →
      masterPass blake3 streamMap mid second = some pass →
      (pass.CountsNothing mid ↔
        (∃ input ∈ between ++ [second], input.state ≠ first.state) ∨
        ¬ RestartsAtEdge stream.cycleTimeNano (ticksSinceEpoch micros₁)
          (ticksSinceEpoch micros₂))) := by
  have hcheck := cycleCheck_of_sent htolerance hsent
  have hcounted : countedBetween stream first between second parsed₁ parsed₂ = none ↔
      (∃ input ∈ between ++ [second], input.state ≠ first.state) ∨
        ¬ RestartsAtEdge stream.cycleTimeNano (ticksSinceEpoch micros₁)
          (ticksSinceEpoch micros₂) := by
    rw [countedBetween, hcounter₁, hcounter₂]
    by_cases hsteady : ∀ input ∈ between ++ [second], input.state = first.state
    -- with the counter kept the comparison decides
    · rw [if_pos hsteady, ← hcheck]
      refine (or_iff_right ?_).symm
      rintro ⟨input, hmem, hchanged⟩
      exact hchanged (hsteady input hmem)
    -- a change of state has cleared it
    · rw [if_neg hsteady]
      simp only [not_forall, exists_prop] at hsteady
      exact iff_of_true rfl (.inl hsteady)
  -- both threads count what the comparison says
  constructor
  · intro locals mid pass hconsecutive hrun hpass
    rw [slavePass_countsNothing_iff hconsecutive.second hpass, slave_missedCycles hconsecutive hrun]
    exact hcounted
  · intro locals mid pass hconsecutive hrun hpass
    rw [masterPass_countsNothing_iff hconsecutive.second hpass,
      master_missedCycles hconsecutive hrun]
    exact hcounted

end Consecutive

/-! ### A stream of one millisecond -/

/-- An input stream with a cycle of 32 ticks and a tolerance of 48. -/
def millisecondStream : StreamConfig :=
  { streamId := 5
    destinationMac := [2, 0, 0, 0, 0, 1]
    vlanIdPcp := 0
    cycleTimeNano := 1000000
    direction := Direction.input.toI32
    streamContent := some ⟨0, 0, 8⟩ }

/-- Its stream map. -/
def millisecondMap : HashMap UInt16 StreamConfig :=
  (∅ : HashMap UInt16 StreamConfig).insert 5 millisecondStream

/-- The content of the frame sent at some time. -/
def millisecondParsed (micros : ℕ) (seq : UInt64) : ParsedL2Frame :=
  { destination := ⟨2, 0, 0, 0, 0, 1⟩
    source := ⟨2, 0, 0, 0, 0, 9⟩
    vlanIdPcp := 0
    header := .new 5 (cycleCounter micros) StatusCode.noError.toU8
    payload := [7]
    sequenceNumber := seq
    authTag := tagOf checksumHash zeroSecret
      (signedL2Bytes (.new 5 (cycleCounter micros) StatusCode.noError.toU8) [7] seq) }

/-- The pass that receives this frame. -/
def millisecondInput (state : DeviceState) (micros : ℕ) (seq : UInt64) : LoopInput :=
  { state := state
    received := some (buildL2Frame ⟨2, 0, 0, 0, 0, 9⟩ ⟨2, 0, 0, 0, 0, 1⟩ 0
      (millisecondParsed micros seq).header [7] ⟨seq, (millisecondParsed micros seq).authTag⟩)
    store := (StreamStore.new zeroSecret).withEntry 5 ⟨millisecondStream, 0⟩
    now := 0
    writeInputs := fun _ => .ok () }

/-- Such a frame is accepted. -/
theorem accepted_millisecondInput {active : DeviceState → Prop} {state : DeviceState}
    (hactive : active state) (micros : ℕ) {seq : UInt64} (hseq : 0 < seq) :
    Accepted checksumHash millisecondMap active (millisecondInput state micros seq)
      (millisecondParsed micros seq) millisecondStream := by
  refine ⟨hactive, _, rfl, ⟨?_, rfl, ?_, rfl⟩⟩
  · exact parseL2Frame_build _ _ _ _ _ _
  · rw [StreamStore.validateStreamTag_eq_ok_true_iff]
    exact ⟨⟨millisecondStream, 0⟩, StreamStore.entry_withEntry _ _ _, hseq, rfl⟩

/-- Two such frames follow each other. -/
theorem consecutive_millisecondInput (active : DeviceState → Prop) (hop : active .op)
    (micros₁ micros₂ : ℕ) :
    Consecutive checksumHash millisecondMap active (millisecondInput .op micros₁ 1) []
      (millisecondInput .op micros₂ 2) (millisecondParsed micros₁ 1)
      (millisecondParsed micros₂ 2) millisecondStream :=
  ⟨accepted_millisecondInput hop micros₁ (by decide), List.forall_mem_nil _,
    accepted_millisecondInput hop micros₂ (by decide), rfl⟩

/-- The slave's thread takes both. -/
theorem exists_slavePass_millisecond (micros₁ micros₂ : ℕ) :
    ∃ mid pass,
      execute (slaveStep checksumHash millisecondMap) .start [millisecondInput .op micros₁ 1] =
        some mid ∧
      slavePass checksumHash millisecondMap mid (millisecondInput .op micros₂ 2) = some pass :=
  ⟨_, _, rfl, rfl⟩

/-- The master's variables before the first pass. -/
def MasterReceiverLocals.start : MasterReceiverLocals := ⟨.start, 0⟩

/-- The master's thread takes both. -/
theorem exists_masterPass_millisecond (micros₁ micros₂ : ℕ) :
    ∃ mid pass,
      execute (masterStep checksumHash millisecondMap) .start [millisecondInput .op micros₁ 1] =
        some mid ∧
      masterPass checksumHash millisecondMap mid (millisecondInput .op micros₂ 2) = some pass :=
  ⟨_, _, rfl, rfl⟩

/-- Two frames one millisecond apart. -/
theorem steady_stream_counts_nothing_iff_on_time :
    ∃ mid pass,
      execute (slaveStep checksumHash millisecondMap) .start [millisecondInput .op 1000 1] =
        some mid ∧
      slavePass checksumHash millisecondMap mid (millisecondInput .op 2000 2) = some pass ∧
      pass.CountsNothing (millisecondInput .op 2000 2) := by
  obtain ⟨mid, pass, hrun, hpass⟩ := exists_slavePass_millisecond 1000 2000
  refine ⟨mid, pass, hrun, hpass, ?_⟩
  have hiff := @steady_stream_counts_nothing_iff checksumHash millisecondMap millisecondStream
    (millisecondInput .op 1000 1) (millisecondInput .op 2000 2) [] (millisecondParsed 1000 1)
    (millisecondParsed 2000 2) 1000 2000 (by decide +kernel) rfl rfl (by decide +kernel)
  exact (hiff.1 .start mid pass (consecutive_millisecondInput slaveActive rfl 1000 2000)
    hrun hpass).mpr (.inr (by decide +kernel))

/-- Two and a half milliseconds apart, which is still in the window, but across a restart of
the sender's counter: both threads count a missed cycle. -/
theorem restarted_counter_counts_missed_cycle :
    SentInWindow 1000000 (ticksSinceEpoch 2046719) (ticksSinceEpoch 2049219) ∧
    (∃ mid pass,
      execute (slaveStep checksumHash millisecondMap) .start [millisecondInput .op 2046719 1] =
        some mid ∧
      slavePass checksumHash millisecondMap mid (millisecondInput .op 2049219 2) = some pass ∧
      ¬ pass.CountsNothing (millisecondInput .op 2049219 2)) ∧
    (∃ mid pass,
      execute (masterStep checksumHash millisecondMap) .start [millisecondInput .op 2046719 1] =
        some mid ∧
      masterPass checksumHash millisecondMap mid (millisecondInput .op 2049219 2) = some pass ∧
      ¬ pass.CountsNothing mid) := by
  have hcheck : cycleCheck 1000000 (cycleCounter 2046719) (cycleCounter 2049219) ≠ none := by
    decide +kernel
  refine ⟨by decide +kernel, ?_, ?_⟩
  · obtain ⟨mid, pass, hrun, hpass⟩ := exists_slavePass_millisecond 2046719 2049219
    refine ⟨mid, pass, hrun, hpass, ?_⟩
    have hconsecutive := consecutive_millisecondInput slaveActive rfl 2046719 2049219
    rw [slavePass_countsNothing_iff hconsecutive.second hpass, slave_missedCycles hconsecutive hrun]
    exact hcheck
  · obtain ⟨mid, pass, hrun, hpass⟩ := exists_masterPass_millisecond 2046719 2049219
    refine ⟨mid, pass, hrun, hpass, ?_⟩
    have hconsecutive := consecutive_millisecondInput masterActive (.inl rfl) 2046719 2049219
    rw [masterPass_countsNothing_iff hconsecutive.second hpass,
      master_missedCycles hconsecutive hrun]
    exact hcheck

/-! ## Lost frames -/

/-- **Lost frames.** Of a stream sent exactly one cycle apart `k` frames are lost, without a change
of state. A single loss counts nothing; from two on the count rises by `k`, up to its largest
value, if the sender's counter has not started again in between. -/
theorem lost_frames_counted {first second : LoopInput} {between : List LoopInput}
    {parsed₁ parsed₂ : ParsedL2Frame} {micros₁ micros₂ k : ℕ}
    (hcycle : 250000 ≤ stream.cycleTimeNano.toNat) (hk : 1 ≤ k)
    (hrange : (k + 1) * (ticksPerCycle stream.cycleTimeNano).toNat < 32768)
    (hcounter₁ : parsed₁.header.cycleCounter = cycleCounter micros₁)
    (hcounter₂ : parsed₂.header.cycleCounter = cycleCounter micros₂)
    (hsent : ticksSinceEpoch micros₂ =
      ticksSinceEpoch micros₁ + (k + 1) * (ticksPerCycle stream.cycleTimeNano).toNat)
    (hsteady : ∀ input ∈ between ++ [second], input.state = first.state) :
    (∀ locals mid pass,
      Consecutive blake3 streamMap slaveActive first between second parsed₁ parsed₂ stream →
      execute (slaveStep blake3 streamMap) locals (first :: between) = some mid →
      slavePass blake3 streamMap mid second = some pass →
      (k = 1 → pass.CountsNothing second) ∧
      (2 ≤ k → ticksSinceEpoch micros₁ / 65535 = ticksSinceEpoch micros₂ / 65535 →
        .statusCode .errCycleCounter ∈ pass.reports ∧
        ∀ (store : DeviceStatusStore) calls, calls.map Prod.fst = pass.reports →
          (store.updateAll calls).current.missedCycles.toNat =
            min (store.current.missedCycles.toNat + k) (2 ^ 32 - 1))) ∧
    (∀ locals mid pass,
      Consecutive blake3 streamMap masterActive first between second parsed₁ parsed₂ stream →
      execute (masterStep blake3 streamMap) locals (first :: between) = some mid →
      masterPass blake3 streamMap mid second = some pass →
      (k = 1 → pass.CountsNothing mid) ∧
      (2 ≤ k → ticksSinceEpoch micros₁ / 65535 = ticksSinceEpoch micros₂ / 65535 →
        pass.locals.missedCyclesTotal.toNat =
          min (mid.missedCyclesTotal.toNat + k) (2 ^ 64 - 1))) := by
  have hcheck := cycleCheck_of_lost hcycle hk hrange hsent
  -- without a change of state the second frame is compared with the first
  have hcounted : countedBetween stream first between second parsed₁ parsed₂ =
      cycleCheck stream.cycleTimeNano (counterOfTicks (ticksSinceEpoch micros₁))
        (counterOfTicks (ticksSinceEpoch micros₂)) := by
    rw [countedBetween, if_pos hsteady, hcounter₁, hcounter₂]
    rfl
  constructor
  -- the slave reports what it has missed
  · intro locals mid pass hconsecutive hrun hpass
    have hmissed := (slave_missedCycles hconsecutive hrun).trans hcounted
    constructor
    -- one lost frame lies within the tolerance
    · intro hone
      rw [slavePass_countsNothing_iff hconsecutive.second hpass]
      exact hmissed.trans (hcheck.1 hone)
    · intro htwo hsame
      obtain ⟨missed, hcount, hsome⟩ := hcheck.2 htwo hsame
      -- the reports of the pass add up to the lost frames
      have hsum := missed_slavePass hconsecutive.second hpass
      rw [hmissed, hsome, Option.elim_some, hcount] at hsum
      refine ⟨?_, ?_⟩
      · obtain ⟨rest, hreports⟩ := slavePass_reports hconsecutive.second hpass
        rw [hreports, hmissed, hsome]
        simp [cycleReports]
      -- the status store takes each report with saturation
      · intro store calls hcalls
        rw [DeviceStatusStore.toNat_missedCycles_updateAll, ← hsum, ← hcalls, List.map_map]
        rfl
  -- the master only counts
  · intro locals mid pass hconsecutive hrun hpass
    have hmissed := (master_missedCycles hconsecutive hrun).trans hcounted
    constructor
    · intro hone
      rw [masterPass_countsNothing_iff hconsecutive.second hpass]
      exact hmissed.trans (hcheck.1 hone)
    · intro htwo hsame
      obtain ⟨missed, hcount, hsome⟩ := hcheck.2 htwo hsame
      obtain ⟨hmismatch, htotal⟩ := masterPass_mismatch hconsecutive.second hpass
      rw [htotal, hmismatch, hmissed, hsome, Option.elim_some, toNat_saturatingAdd,
        UInt32.toNat_toUInt64, hcount]

/-- A frame received in SafeOp is none of those in between. -/
theorem consecutive_millisecondInput_safeOp (micros₁ micros micros₂ : ℕ) :
    Consecutive checksumHash millisecondMap slaveActive (millisecondInput .op micros₁ 1)
      [millisecondInput .safeOp micros 0] (millisecondInput .op micros₂ 2)
      (millisecondParsed micros₁ 1) (millisecondParsed micros₂ 2) millisecondStream := by
  refine ⟨accepted_millisecondInput rfl micros₁ (by decide), ?_,
    accepted_millisecondInput rfl micros₂ (by decide), rfl⟩
  intro input hmem parsed stream haccepted
  rw [List.mem_singleton.mp hmem] at haccepted
  cases (haccepted.1 : DeviceState.safeOp = .op)

/-- Of frames one millisecond apart one is lost between two that are accepted, and nothing is
counted. If two are lost while the device was in SafeOp for a moment, nothing is counted
either. -/
theorem single_loss_counts_nothing :
    (Consecutive checksumHash millisecondMap slaveActive (millisecondInput .op 1000 1) []
        (millisecondInput .op 3000 2) (millisecondParsed 1000 1) (millisecondParsed 3000 2)
        millisecondStream ∧
      ∃ mid pass,
        execute (slaveStep checksumHash millisecondMap) .start [millisecondInput .op 1000 1] =
          some mid ∧
        slavePass checksumHash millisecondMap mid (millisecondInput .op 3000 2) = some pass ∧
        (pass.reports.map StatusUpdate.missed).sum = 0) ∧
    (Consecutive checksumHash millisecondMap slaveActive (millisecondInput .op 1000 1)
        [millisecondInput .safeOp 1500 0] (millisecondInput .op 4000 2)
        (millisecondParsed 1000 1) (millisecondParsed 4000 2) millisecondStream ∧
      ∃ mid pass,
        execute (slaveStep checksumHash millisecondMap) .start
          [millisecondInput .op 1000 1, millisecondInput .safeOp 1500 0] = some mid ∧
        slavePass checksumHash millisecondMap mid (millisecondInput .op 4000 2) = some pass ∧
        (pass.reports.map StatusUpdate.missed).sum = 0) ∧
    ticksSinceEpoch 3000 = ticksSinceEpoch 1000 + 2 * (ticksPerCycle 1000000).toNat ∧
    ticksSinceEpoch 4000 = ticksSinceEpoch 1000 + 3 * (ticksPerCycle 1000000).toNat := by
  have hconsecutive := consecutive_millisecondInput slaveActive rfl 1000 3000
  -- the frames of the other state are on schedule but not compared
  refine ⟨⟨hconsecutive, ?_⟩, ⟨consecutive_millisecondInput_safeOp 1000 1500 4000, _, _, rfl, rfl,
    by decide +kernel⟩, by decide +kernel, by decide +kernel⟩
  obtain ⟨mid, pass, hrun, hpass⟩ := exists_slavePass_millisecond 1000 3000
  refine ⟨mid, pass, hrun, hpass, ?_⟩
  -- the frame between 1000 and 3000 is missing, and nothing is counted
  have hnone : countedBetween millisecondStream (millisecondInput .op 1000 1) []
      (millisecondInput .op 3000 2) (millisecondParsed 1000 1) (millisecondParsed 3000 2) =
        none := by decide +kernel
  rw [missed_slavePass hconsecutive.second hpass, slave_missedCycles hconsecutive hrun, hnone]
  rfl

/-- Two lost frames are counted. -/
theorem lost_frames_counted_two :
    ∃ mid pass,
      execute (slaveStep checksumHash millisecondMap) .start [millisecondInput .op 1000 1] =
        some mid ∧
      slavePass checksumHash millisecondMap mid (millisecondInput .op 4000 2) = some pass ∧
      .statusCode .errCycleCounter ∈ pass.reports := by
  obtain ⟨mid, pass, hrun, hpass⟩ := exists_slavePass_millisecond 1000 4000
  refine ⟨mid, pass, hrun, hpass, ?_⟩
  have hcounted := @lost_frames_counted checksumHash millisecondMap millisecondStream
    (millisecondInput .op 1000 1) (millisecondInput .op 4000 2) [] (millisecondParsed 1000 1)
    (millisecondParsed 4000 2) 1000 4000 2 (by decide) (by decide) (by decide +kernel) rfl rfl
    (by decide +kernel) (by decide)
  exact ((hcounted.1 .start mid pass (consecutive_millisecondInput slaveActive rfl 1000 4000) hrun
    hpass).2 (by decide) (by decide +kernel)).1

/-! ## The comparison and the process image -/

/-- What a pass writes of an accepted frame does not depend on the counters. -/
theorem written_slavePass {locals : ReceiverLocals} {pass : SlavePass}
    (h : Accepted blake3 streamMap slaveActive input parsed stream)
    (hpass : slavePass blake3 streamMap locals input = some pass) :
    pass.written = (deliverInput input.writeInputs stream parsed.payload).1 := by
  obtain ⟨frame, haccepts, heq⟩ := slavePass_of_accepted locals h
  obtain rfl := Option.some.inj (heq.symm.trans hpass)
  exact (receiveSlaveFrame_of_accepted (locals.observe input.state) haccepts).2.1

theorem written_masterPass {locals : MasterReceiverLocals} {pass : MasterPass}
    (h : Accepted blake3 streamMap masterActive input parsed stream)
    (hpass : masterPass blake3 streamMap locals input = some pass) :
    pass.written = (deliverInput input.writeInputs stream parsed.payload).1 := by
  obtain ⟨frame, haccepts, heq⟩ := masterPass_of_accepted locals h
  obtain rfl := Option.some.inj (heq.symm.trans hpass)
  exact (receiveMasterFrame_of_accepted
    ⟨locals.toReceiverLocals.observe input.state, locals.missedCyclesTotal⟩ haccepts).2.2.1

/-- The stream has nothing to write: no content, or more than the payload holds. -/
def NothingToWrite (stream : StreamConfig) (payload : List UInt8) : Prop :=
  stream.streamContent = none ∨ ∃ content, stream.streamContent = some content ∧
    payload.length < bitLenToByteLen content.bitLen

theorem written_deliverInput_eq_none_iff (writeInputs : InputWrite → Except StatusCode Unit)
    (stream : StreamConfig) (payload : List UInt8) :
    (deliverInput writeInputs stream payload).1 = none ↔ NothingToWrite stream payload := by
  unfold deliverInput NothingToWrite
  rcases handleInputPacket_cases stream payload with
    ⟨hcontent, heq⟩ | ⟨content, hcontent, hshort, heq⟩ | ⟨content, hcontent, hlong, heq⟩
  · simp [heq, hcontent]
  · simp [heq, hcontent, hshort]
  · simp [heq, hcontent, hlong]

/-- **Frames out of the window.** In both threads a frame that is out of the window around one
cycle after the last counter stays out of the process image if and only if it is not out of
the window after all or there is nothing to write. -/
theorem out_of_window_frame_unwritten_iff (blake3 : KeyedHash)
    (streamMap : HashMap UInt16 StreamConfig) (input : LoopInput) (parsed : ParsedL2Frame)
    (stream : StreamConfig) (last : UInt16) :
    (∀ locals pass, Accepted blake3 streamMap slaveActive input parsed stream →
      slavePass blake3 streamMap locals input = some pass →
      (locals.observe input.state).lastCycleCounter.lookup parsed.header.streamId = some last →
      ((¬ InWindow stream.cycleTimeNano last parsed.header.cycleCounter → pass.written = none) ↔
        InWindow stream.cycleTimeNano last parsed.header.cycleCounter ∨
          NothingToWrite stream parsed.payload)) ∧
    (∀ locals pass, Accepted blake3 streamMap masterActive input parsed stream →
      masterPass blake3 streamMap locals input = some pass →
      (locals.toReceiverLocals.observe input.state).lastCycleCounter.lookup
        parsed.header.streamId = some last →
      ((¬ InWindow stream.cycleTimeNano last parsed.header.cycleCounter → pass.written = none) ↔
        InWindow stream.cycleTimeNano last parsed.header.cycleCounter ∨
          NothingToWrite stream parsed.payload)) := by
  constructor
  · intro locals pass haccepted hpass _
    rw [written_slavePass haccepted hpass, written_deliverInput_eq_none_iff, or_iff_not_imp_left]
  · intro locals pass haccepted hpass _
    rw [written_masterPass haccepted hpass, written_deliverInput_eq_none_iff, or_iff_not_imp_left]

/-- A frame on time, with the last counter in the variables. -/
theorem out_of_window_frame_unwritten_iff_on_time :
    ∃ mid pass,
      execute (slaveStep checksumHash millisecondMap) .start [millisecondInput .op 1000 1] =
        some mid ∧
      slavePass checksumHash millisecondMap mid (millisecondInput .op 2000 2) = some pass ∧
      (¬ InWindow 1000000 (cycleCounter 1000) (cycleCounter 2000) → pass.written = none) := by
  obtain ⟨mid, pass, hrun, hpass⟩ := exists_slavePass_millisecond 1000 2000
  refine ⟨mid, pass, hrun, hpass, ?_⟩
  have hconsecutive := consecutive_millisecondInput slaveActive rfl 1000 2000
  have hmid : slaveStep checksumHash millisecondMap .start (millisecondInput .op 1000 1) =
      some mid := by
    obtain ⟨next, hnext, hrest⟩ := execute_cons_eq_some.mp hrun
    rw [hnext, ← Option.some.inj hrest]
  have htracks := slaveStep_tracks _ _ _ hmid
  have hlast : (mid.observe .op).lastCycleCounter.lookup 5 = some (cycleCounter 1000) := by
    rw [ReceiverLocals.lookup_observe, htracks.state]
    exact (if_pos rfl).trans (htracks.accepted _ _ hconsecutive.first)
  exact ((out_of_window_frame_unwritten_iff checksumHash millisecondMap
    (millisecondInput .op 2000 2) (millisecondParsed 2000 2) millisecondStream
    (cycleCounter 1000)).1 mid pass hconsecutive.second hpass hlast).mpr (.inl (by decide +kernel))

/-- Three milliseconds late and three milliseconds early, both frames are written. -/
theorem out_of_window_frames_are_written :
    (∃ mid pass,
      execute (slaveStep checksumHash millisecondMap) .start [millisecondInput .op 1000 1] =
        some mid ∧
      slavePass checksumHash millisecondMap mid (millisecondInput .op 5000 2) = some pass ∧
      ¬ InWindow 1000000 (cycleCounter 1000) (cycleCounter 5000) ∧
      pass.written = some ⟨[7], ⟨0, 0, 8⟩⟩) ∧
    (∃ mid pass,
      execute (slaveStep checksumHash millisecondMap) .start [millisecondInput .op 5000 1] =
        some mid ∧
      slavePass checksumHash millisecondMap mid (millisecondInput .op 3000 2) = some pass ∧
      ¬ InWindow 1000000 (cycleCounter 5000) (cycleCounter 3000) ∧
      pass.written = some ⟨[7], ⟨0, 0, 8⟩⟩) := by
  constructor
  · obtain ⟨mid, pass, hrun, hpass⟩ := exists_slavePass_millisecond 1000 5000
    refine ⟨mid, pass, hrun, hpass, by decide +kernel, ?_⟩
    rw [written_slavePass (accepted_millisecondInput rfl 5000 (by decide)) hpass]
    rfl
  · obtain ⟨mid, pass, hrun, hpass⟩ := exists_slavePass_millisecond 5000 3000
    refine ⟨mid, pass, hrun, hpass, by decide +kernel, ?_⟩
    rw [written_slavePass (accepted_millisecondInput rfl 3000 (by decide)) hpass]
    rfl

end TsnFieldbus
