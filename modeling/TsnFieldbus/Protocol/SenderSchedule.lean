import TsnFieldbus.Foundations.TickSchedule
import TsnFieldbus.Master.SenderLoop
import TsnFieldbus.Protocol.L2Node
import Mathlib.Data.List.GetD

/-!
# Schedule of the Sender Loops

At which ticks a stream is transmitted while the state stays the same. A stream is due when its
cycle time has passed since it was sent last, and that instant is as late as its tick was.

- `L2Party.runFrames`: the frames that a sender loop sends, pass by pass.
- `steadyRun_spec`: in a steady run a stream is sent at the ticks at which the job of `LateTicks`
  runs.
- `transmissions_on_schedule_iff`: consecutive transmissions have the distance of the cycle time
  exactly if no scheduled tick is less late than the one before.
-/

namespace TsnFieldbus

open Foundations

/-! ## Frames of a run -/

namespace L2Party

variable (blake3 : KeyedHash) (sourceMac : MacAddr)

/-- A stream's turn in the party's sender loop. -/
def senderTurn (party : L2Party) :
    DeviceState → SenderLocals → StreamConfig × SenderInput → PassEnd SenderLocals :=
  match party with
  | .master => masterTurn blake3 sourceMac
  | .slave => slaveTurn blake3 sourceMac

/-- The frame that the turn hands to the socket. -/
def turnFrame (party : L2Party) (state : DeviceState) (locals : SenderLocals)
    (item : StreamConfig × SenderInput) : Option Frame :=
  match party with
  | .master =>
    if item.2.state ≠ .op ∧ item.2.state ≠ .safeOp then none
    else (serveMasterStream blake3 sourceMac locals item.1 item.2).bind (·.frame)
  | .slave => (serveSlaveStream blake3 sourceMac state locals item.1 item.2).bind (·.frame)

/-- The frames of the turns of a pass, each with its stream. -/
def turnFrames (party : L2Party) (state : DeviceState) :
    SenderLocals → List (StreamConfig × SenderInput) → List (StreamConfig × Frame)
  | _, [] => []
  | locals, item :: items =>
    let sent := (party.turnFrame blake3 sourceMac state locals item).toList.map (item.1, ·)
    match party.senderTurn blake3 sourceMac state locals item with
    | .continues next => sent ++ turnFrames party state next items
    | .exits _ => sent
    | .panics => sent

/-- The frames of a pass. -/
def passFrames (party : L2Party) (streams : List StreamConfig) (locals : SenderLocals)
    (input : SenderPassInput) : List (StreamConfig × Frame) :=
  if input.state ≠ .op ∧ input.state ≠ .safeOp then []
  else
    party.turnFrames blake3 sourceMac input.state (locals.observe input.state)
      (input.turns streams)

/-- The frames of a run, pass by pass. -/
def runFrames (party : L2Party) (streams : List StreamConfig) :
    SenderLocals → List SenderPassInput → List (List (StreamConfig × Frame))
  | _, [] => []
  | locals, input :: inputs =>
    party.passFrames blake3 sourceMac streams locals input ::
      match senderPass (party.senderTurn blake3 sourceMac) streams locals input with
      | .continues next => runFrames party streams next inputs
      | .exits _ => []
      | .panics => []

/-- The stream is transmitted in pass `k`. -/
def Transmits (party : L2Party) (streams : List StreamConfig) (locals : SenderLocals)
    (inputs : List SenderPassInput) (stream : StreamConfig) (k : ℕ) : Prop :=
  ∃ frame, (stream, frame) ∈ (party.runFrames blake3 sourceMac streams locals inputs).getD k []

end L2Party

/-! ## One turn -/

theorem previousState_recordSend (locals : SenderLocals) (state : DeviceState)
    (streamId : UInt16) (cycleTime : UInt32) (now : Instant) :
    (locals.recordSend state streamId cycleTime now).1.previousState = locals.previousState := by
  unfold SenderLocals.recordSend
  dsimp only
  split
  · cases locals.lastSent.lookup streamId <;> rfl
  · rfl

/-- A known stream gets its tag. -/
theorem transmitStream_ok {blake3 : KeyedHash} {sourceMac : MacAddr} {input : SenderInput}
    {stream : StreamConfig} {result : Except StatusCode Frame} {store : StreamStore}
    {entry : StreamEntry} (hentry : input.store.entry stream.streamId.toUInt16 = some entry)
    (h : transmitStream blake3 sourceMac input stream = some (result, store)) :
    ∃ frame, result = .ok frame := by
  unfold transmitStream at h
  cases hmac : parseDestinationMac stream with
  -- a short address panics
  | none =>
    rw [hmac] at h
    cases h
  | some destination =>
    rw [hmac] at h
    cases hpayload : buildFramePayload input.readOutputs stream with
    -- outputs that cannot be read go out as a status without payload
    | error code =>
      simp only [hpayload, Option.bind_eq_bind, Option.bind_some] at h
      have htag := @StreamStore.generateStreamTag_eq blake3 _
        (.new stream.streamId.toUInt16 input.cycleCounter code.toU8) _ hentry []
      rw [htag] at h
      cases h
      exact ⟨_, rfl⟩
    | ok payload =>
      simp only [hpayload, Option.bind_eq_bind, Option.bind_some] at h
      have htag := @StreamStore.generateStreamTag_eq blake3 _
        (.new stream.streamId.toUInt16 input.cycleCounter StatusCode.noError.toU8) _ hentry
        payload
      rw [htag] at h
      cases h
      exact ⟨_, rfl⟩

/-- What a stream's turn does, in terms of whether it is due. -/
structure TurnOf (locals : SenderLocals) (stream : StreamConfig) (input : SenderInput)
    (next : SenderLocals) (frame : Option Frame) : Prop where
  previousState : next.previousState = locals.previousState
  lastSent : next.lastSent =
    if locals.due stream.streamId.toUInt16 (max stream.cycleTimeNano 1) input.checkedAt then
      locals.lastSent.insert stream.streamId.toUInt16 input.now
    else locals.lastSent
  sent : (input.store.entry stream.streamId.toUInt16).isSome →
    (frame.isSome ↔
      locals.due stream.streamId.toUInt16 (max stream.cycleTimeNano 1) input.checkedAt = true)

/-- The turn of a stream at the slave. -/
theorem turnOf_serveSlaveStream {blake3 : KeyedHash} {sourceMac : MacAddr} {state : DeviceState}
    {locals : SenderLocals} {stream : StreamConfig} {input : SenderInput} {turn : SlaveTurn}
    (h : serveSlaveStream blake3 sourceMac state locals stream input = some turn) :
    TurnOf locals stream input turn.locals turn.frame := by
  unfold serveSlaveStream at h
  dsimp only at h
  split at h
  -- not due: nothing is sent, nothing is noted
  · rename_i hnot
    cases h
    exact ⟨rfl, (if_neg hnot).symm, fun _ => iff_of_false (by simp) hnot⟩
  · rename_i hdue
    rw [not_not] at hdue
    simp only [Option.bind_eq_bind, Option.bind_eq_some_iff] at h
    -- due: the time is noted, whatever comes of the transmission
    obtain ⟨reports, -, ⟨result, store⟩, htransmit, h⟩ := h
    have hlastSent := SenderLocals.lastSent_recordSend locals state stream.streamId.toUInt16
      (max stream.cycleTimeNano 1) input.now
    have hprevious := previousState_recordSend locals state stream.streamId.toUInt16
      (max stream.cycleTimeNano 1) input.now
    cases result with
    | error code =>
      cases h
      refine ⟨hprevious, hlastSent.trans (if_pos hdue).symm, ?_⟩
      -- a stream with an entry is transmitted
      intro hentry
      obtain ⟨entry, hentry⟩ := Option.isSome_iff_exists.mp hentry
      obtain ⟨frame, hframe⟩ := transmitStream_ok hentry htransmit
      cases hframe
    | ok frame =>
      cases h
      exact ⟨hprevious, hlastSent.trans (if_pos hdue).symm, fun _ => iff_of_true rfl hdue⟩

section

variable {blake3 : KeyedHash} {sourceMac : MacAddr} {party : L2Party} {state : DeviceState}

/-- The turn of a stream at either party, while the state allows sending. -/
theorem turnOf_senderTurn {locals next : SenderLocals} {item : StreamConfig × SenderInput}
    (hactive : state = .op ∨ state = .safeOp) (hstate : item.2.state = state)
    (h : party.senderTurn blake3 sourceMac state locals item = .continues next) :
    TurnOf locals item.1 item.2 next (party.turnFrame blake3 sourceMac state locals item) := by
  have hsends : ¬ (item.2.state ≠ .op ∧ item.2.state ≠ .safeOp) := by
    rw [hstate]
    rcases hactive with rfl | rfl <;> simp
  cases party with
  -- the slave checks the state once a pass
  | slave =>
    simp only [L2Party.senderTurn, slaveTurn] at h
    simp only [L2Party.turnFrame]
    cases hserve : serveSlaveStream blake3 sourceMac state locals item.1 item.2 with
    | none =>
      rw [hserve] at h
      cases h
    | some turn =>
      rw [hserve] at h
      cases h
      exact turnOf_serveSlaveStream hserve
  -- the master checks it before each stream, and serves it alike
  | master =>
    simp only [L2Party.senderTurn, masterTurn, if_neg hsends, serveMasterStream_eq] at h
    simp only [L2Party.turnFrame, if_neg hsends, serveMasterStream_eq]
    cases hserve : serveSlaveStream blake3 sourceMac item.2.state locals item.1 item.2 with
    | none =>
      rw [hserve] at h
      cases h
    | some turn =>
      rw [hserve] at h
      cases h
      exact turnOf_serveSlaveStream hserve

/-- While the state allows sending no turn leaves the loop. -/
theorem senderTurn_ne_exits {locals next : SenderLocals} {item : StreamConfig × SenderInput}
    (hactive : state = .op ∨ state = .safeOp) (hstate : item.2.state = state) :
    party.senderTurn blake3 sourceMac state locals item ≠ .exits next := by
  have hsends : ¬ (item.2.state ≠ .op ∧ item.2.state ≠ .safeOp) := by
    rw [hstate]
    rcases hactive with rfl | rfl <;> simp
  have hchecked (checked : Option SenderLocals) : PassEnd.ofChecked checked ≠ .exits next := by
    cases checked <;> simp [PassEnd.ofChecked]
  cases party with
  | slave => exact hchecked _
  | master =>
    simp only [L2Party.senderTurn, masterTurn, if_neg hsends]
    exact hchecked _

/-! ## One pass -/

/-- Turns of other streams leave a stream's instant. -/
theorem runLoop_senderTurn_others {locals next : SenderLocals}
    {items : List (StreamConfig × SenderInput)} {streamId : UInt16}
    (hactive : state = .op ∨ state = .safeOp) (hstate : ∀ item ∈ items, item.2.state = state)
    (hothers : ∀ item ∈ items, item.1.streamId.toUInt16 ≠ streamId)
    (h : runLoop (party.senderTurn blake3 sourceMac state) locals items = .continues next) :
    next.lastSent.lookup streamId = locals.lastSent.lookup streamId ∧
      next.previousState = locals.previousState := by
  induction items generalizing locals with
  | nil =>
    cases h
    exact ⟨rfl, rfl⟩
  | cons item items ih =>
    obtain ⟨middle, hfirst, hrest⟩ := runLoop_cons_eq_continues.mp h
    rw [List.forall_mem_cons] at hstate hothers
    obtain ⟨hprevious, hlastSent, -⟩ := turnOf_senderTurn hactive hstate.1 hfirst
    obtain ⟨hlookup, hprevious'⟩ := ih hstate.2 hothers.2 hrest
    refine ⟨hlookup.trans ?_, hprevious'.trans hprevious⟩
    rw [hlastSent]
    split
    · exact AList.lookup_insert_ne (Ne.symm hothers.1)
    · rfl

/-- Every frame of a pass belongs to one of its turns. -/
theorem mem_of_mem_turnFrames {locals : SenderLocals} {items : List (StreamConfig × SenderInput)}
    {sent : StreamConfig × Frame}
    (h : sent ∈ party.turnFrames blake3 sourceMac state locals items) :
    sent.1 ∈ items.map Prod.fst := by
  induction items generalizing locals with
  | nil => cases h
  | cons item items ih =>
    have hhead : ∀ frame : Option Frame, sent ∈ frame.toList.map (item.1, ·) →
        sent.1 = item.1 := by
      intro frame hmem
      obtain ⟨frame', -, rfl⟩ := List.mem_map.mp hmem
      rfl
    rw [List.map_cons, List.mem_cons]
    unfold L2Party.turnFrames at h
    dsimp only at h
    -- a turn that ends the loop has still sent its own frame
    cases hturn : party.senderTurn blake3 sourceMac state locals item with
    | continues next =>
      rw [hturn] at h
      rcases List.mem_append.mp h with hsent | hrest
      · exact .inl (hhead _ hsent)
      · exact .inr (ih hrest)
    | exits next =>
      rw [hturn] at h
      exact .inl (hhead _ h)
    | panics =>
      rw [hturn] at h
      exact .inl (hhead _ h)

/-- The frames of turns one after the other. -/
theorem turnFrames_append {locals next : SenderLocals}
    {items more : List (StreamConfig × SenderInput)}
    (h : runLoop (party.senderTurn blake3 sourceMac state) locals items = .continues next) :
    party.turnFrames blake3 sourceMac state locals (items ++ more) =
      party.turnFrames blake3 sourceMac state locals items ++
        party.turnFrames blake3 sourceMac state next more := by
  induction items generalizing locals with
  | nil =>
    cases h
    rfl
  | cons item items ih =>
    obtain ⟨middle, hfirst, hrest⟩ := runLoop_cons_eq_continues.mp h
    rw [List.cons_append, L2Party.turnFrames, L2Party.turnFrames, hfirst]
    dsimp only
    rw [ih hrest, List.append_assoc]

/-- The variables at the head of a pass. -/
theorem previousState_observe (locals : SenderLocals) (state : DeviceState) :
    (locals.observe state).previousState = some state := by
  unfold SenderLocals.observe
  split
  · rfl
  · rename_i hsame
    exact not_not.mp hsame

theorem due_congr {locals other : SenderLocals} {streamId : UInt16}
    (h : locals.lastSent.lookup streamId = other.lastSent.lookup streamId) (cycleTime : UInt32)
    (checkedAt : Instant) :
    locals.due streamId cycleTime checkedAt = other.due streamId cycleTime checkedAt := by
  unfold SenderLocals.due
  rw [h]

/-- A pass of a steady run: the state does not change, all clock reads are the tick's, and the
store knows the stream. -/
structure SteadyPass (state : DeviceState) (time : Instant) (streamId : UInt16)
    (input : SenderPassInput) : Prop where
  headState : input.state = state
  turnState : ∀ i, (input.turn i).state = state
  checkedAt : ∀ i, (input.turn i).checkedAt = time
  now : ∀ i, (input.turn i).now = time
  known : ∀ i, ((input.turn i).store.entry streamId).isSome

/-- The turns around a stream's own. -/
theorem turns_split (input : SenderPassInput) (before after : List StreamConfig)
    (stream : StreamConfig) :
    ∃ earlier later, input.turns (before ++ stream :: after) =
        earlier ++ (stream, input.turn before.length) :: later ∧
      earlier.map Prod.fst = before ∧ later.map Prod.fst = after := by
  have hfst (streams : List StreamConfig) (n : ℕ) :
      ((streams.zipIdx n).map (fun item => (item.1, input.turn item.2))).map Prod.fst =
        streams := by
    rw [List.map_map]
    exact List.zipIdx_map_fst n streams
  refine ⟨(before.zipIdx 0).map (fun item => (item.1, input.turn item.2)),
    (after.zipIdx (before.length + 1)).map (fun item => (item.1, input.turn item.2)), ?_,
    hfst before 0, hfst after _⟩
  rw [SenderPassInput.turns, List.zipIdx_append, List.zipIdx_cons, List.map_append, List.map_cons,
    Nat.zero_add]

theorem state_of_mem_turns {input : SenderPassInput} {streams : List StreamConfig}
    (h : ∀ i, (input.turn i).state = state) :
    ∀ item ∈ input.turns streams, item.2.state = state := by
  intro item hitem
  obtain ⟨indexed, -, rfl⟩ := List.mem_map.mp hitem
  exact h _

theorem runLoop_senderTurn_ne_exits {locals next : SenderLocals}
    {items : List (StreamConfig × SenderInput)} (hactive : state = .op ∨ state = .safeOp)
    (hstate : ∀ item ∈ items, item.2.state = state) :
    runLoop (party.senderTurn blake3 sourceMac state) locals items ≠ .exits next := by
  induction items generalizing locals with
  | nil =>
    intro h
    cases h
  | cons item items ih =>
    rw [List.forall_mem_cons] at hstate
    unfold runLoop
    cases hturn : party.senderTurn blake3 sourceMac state locals item with
    | continues middle => exact ih hstate.2
    | exits middle => exact absurd hturn (senderTurn_ne_exits hactive hstate.1)
    | panics =>
      intro h
      cases h

/-- A steady pass that goes on is a run through its turns. -/
theorem runLoop_of_senderPass {streams : List StreamConfig} {locals next : SenderLocals}
    {input : SenderPassInput} {time : Instant} {streamId : UInt16}
    (hactive : state = .op ∨ state = .safeOp) (hsteady : SteadyPass state time streamId input)
    (h : senderPass (party.senderTurn blake3 sourceMac) streams locals input = .continues next) :
    ¬ (input.state ≠ .op ∧ input.state ≠ .safeOp) ∧
      runLoop (party.senderTurn blake3 sourceMac state) (locals.observe state)
        (input.turns streams) = .continues next := by
  have hsends : ¬ (input.state ≠ .op ∧ input.state ≠ .safeOp) := by
    rw [hsteady.headState]
    rcases hactive with rfl | rfl <;> simp
  refine ⟨hsends, ?_⟩
  simp only [senderPass, if_neg hsends] at h
  rw [hsteady.headState] at h
  cases hloop : runLoop (party.senderTurn blake3 sourceMac state) (locals.observe state)
      (input.turns streams) with
  | continues last =>
    rw [hloop] at h
    exact h
  -- in an active state no turn of the master leaves the loop
  | exits last =>
    exact absurd hloop
      (runLoop_senderTurn_ne_exits hactive (state_of_mem_turns hsteady.turnState))
  | panics =>
    rw [hloop] at h
    cases h

/-- A steady pass sends a stream exactly if it is due at the head of the pass, and then remembers
the time of the tick. -/
theorem steadyPass_spec {before after : List StreamConfig} {stream : StreamConfig}
    (hids : ∀ other ∈ before ++ after, other.streamId.toUInt16 ≠ stream.streamId.toUInt16)
    {locals next : SenderLocals} {input : SenderPassInput} {time : Instant}
    (hactive : state = .op ∨ state = .safeOp)
    (hsteady : SteadyPass state time stream.streamId.toUInt16 input)
    (h : senderPass (party.senderTurn blake3 sourceMac) (before ++ stream :: after) locals input =
      .continues next) :
    next.previousState = some state ∧
      next.lastSent.lookup stream.streamId.toUInt16 =
        (if (locals.observe state).due stream.streamId.toUInt16 (max stream.cycleTimeNano 1) time
          then some time
          else (locals.observe state).lastSent.lookup stream.streamId.toUInt16) ∧
      ((∃ frame, (stream, frame) ∈ party.passFrames blake3 sourceMac (before ++ stream :: after)
          locals input) ↔
        (locals.observe state).due stream.streamId.toUInt16 (max stream.cycleTimeNano 1) time =
          true) := by
  obtain ⟨hsends, hrun⟩ := runLoop_of_senderPass hactive hsteady h
  obtain ⟨earlier, later, hturns, hearlier, hlater⟩ := turns_split input before after stream
  have hstates := @state_of_mem_turns state input (before ++ stream :: after) hsteady.turnState
  rw [hturns] at hrun hstates
  rw [List.forall_mem_append, List.forall_mem_cons] at hstates
  obtain ⟨hstateEarlier, hstateItem, hstateLater⟩ := hstates
  have hother : ∀ items : List (StreamConfig × SenderInput),
      (∀ item ∈ items, item.1 ∈ before ++ after) →
      ∀ item ∈ items, item.1.streamId.toUInt16 ≠ stream.streamId.toUInt16 :=
    fun items hmem item hitem => hids _ (hmem item hitem)
  have hothersEarlier := hother earlier (fun item hitem =>
    List.mem_append_left _ (hearlier ▸ List.mem_map_of_mem hitem))
  have hothersLater := hother later (fun item hitem =>
    List.mem_append_right _ (hlater ▸ List.mem_map_of_mem hitem))
  -- the turns before, the stream's own, and the turns after
  obtain ⟨atTurn, hbefore, hrest⟩ := runLoop_append_eq_continues.mp hrun
  obtain ⟨afterTurn, hturn, hafter⟩ := runLoop_cons_eq_continues.mp hrest
  obtain ⟨hlookupBefore, hpreviousBefore⟩ :=
    runLoop_senderTurn_others hactive hstateEarlier hothersEarlier hbefore
  obtain ⟨hlookupAfter, hpreviousAfter⟩ :=
    runLoop_senderTurn_others hactive hstateLater hothersLater hafter
  obtain ⟨hprevious, hlastSent, hsent⟩ := turnOf_senderTurn hactive hstateItem hturn
  dsimp only at hprevious hlastSent hsent
  rw [hsteady.checkedAt, due_congr hlookupBefore] at hlastSent hsent
  rw [hsteady.now] at hlastSent
  refine ⟨?_, ?_, ?_⟩
  · rw [hpreviousAfter, hprevious, hpreviousBefore, previousState_observe]
  · rw [hlookupAfter, hlastSent]
    split
    · exact AList.lookup_insert _
    · exact hlookupBefore
  · rw [← hsent (hsteady.known _), L2Party.passFrames, if_neg hsends, hsteady.headState, hturns,
      turnFrames_append hbefore, L2Party.turnFrames, hturn]
    dsimp only
    have hnot : ∀ (items : List (StreamConfig × SenderInput)) (locals : SenderLocals)
        (frame : Frame),
        (∀ item ∈ items, item.1.streamId.toUInt16 ≠ stream.streamId.toUInt16) →
        (stream, frame) ∉ party.turnFrames blake3 sourceMac state locals items := by
      intro items locals frame hothers hmem
      obtain ⟨item, hitem, heq⟩ := List.mem_map.mp (mem_of_mem_turnFrames hmem)
      exact hothers item hitem (congrArg (fun s : StreamConfig => s.streamId.toUInt16) heq)
    simp only [List.mem_append, hnot earlier _ _ hothersEarlier, hnot later _ _ hothersLater,
      false_or, or_false, List.mem_map, Option.mem_toList, Prod.mk.injEq, true_and,
      exists_eq_right, Option.isSome_iff_exists]

/-! ## A steady run -/

/-- Dueness in terms of the elapsed time, which fits into the 64 bits it is narrowed to. -/
theorem due_iff_elapsed {locals : SenderLocals} {streamId : UInt16} {cycleTime : UInt32}
    {last checkedAt : Instant} (hlookup : locals.lastSent.lookup streamId = some last)
    (hfits : checkedAt - last < 2 ^ 64) :
    locals.due streamId cycleTime checkedAt = true ↔ cycleTime.toNat ≤ checkedAt - last := by
  rw [SenderLocals.due, hlookup]
  simp only [ge_iff_le, decide_eq_true_eq, UInt64.le_iff_toNat_le, UInt32.toNat_toUInt64,
    UInt64.toNat_ofNat_of_lt' hfits]

/-- The frames of a run that goes on for another pass. -/
theorem runFrames_concat {streams : List StreamConfig} {locals next : SenderLocals}
    {inputs : List SenderPassInput}
    (h : runLoop (senderPass (party.senderTurn blake3 sourceMac) streams) locals inputs =
      .continues next) (input : SenderPassInput) :
    party.runFrames blake3 sourceMac streams locals (inputs ++ [input]) =
        party.runFrames blake3 sourceMac streams locals inputs ++
          [party.passFrames blake3 sourceMac streams next input] ∧
      (party.runFrames blake3 sourceMac streams locals inputs).length = inputs.length := by
  induction inputs generalizing locals with
  | nil =>
    cases h
    refine ⟨?_, rfl⟩
    simp only [List.nil_append, L2Party.runFrames]
    cases senderPass (party.senderTurn blake3 sourceMac) streams next input <;> rfl
  | cons first inputs ih =>
    obtain ⟨middle, hfirst, hrest⟩ := runLoop_cons_eq_continues.mp h
    obtain ⟨hframes, hlength⟩ := ih hrest
    rw [List.cons_append, L2Party.runFrames, L2Party.runFrames, hfirst]
    dsimp only
    rw [hframes]
    exact ⟨rfl, congrArg (· + 1) hlength⟩

section

variable {before after : List StreamConfig} {stream : StreamConfig}
  (hids : ∀ other ∈ before ++ after, other.streamId.toUInt16 ≠ stream.streamId.toUInt16)
  {ticks : LateTicks} {cycles : ℕ} (hcycles : 1 ≤ cycles)
  (hcycleTime : stream.cycleTimeNano.toNat = cycles * ticks.period)
  (hactive : state = .op ∨ state = .safeOp) {locals last : SenderLocals}
  (hphase : locals.previousState ≠ some state)

include hcycles hcycleTime

/-- At the head of a later pass the stream is due at the ticks at which the job runs. -/
theorem due_iff_runs {n : ℕ}
    (hlookup : locals.lastSent.lookup stream.streamId.toUInt16 =
      some (ticks.instant (ticks.lastRun cycles n))) :
    locals.due stream.streamId.toUInt16 (max stream.cycleTimeNano 1) (ticks.instant (n + 1)) =
        true ↔
      ticks.Runs cycles (n + 1) := by
  have hperiod : 0 < ticks.period := Nat.zero_lt_of_lt (ticks.late_lt 0)
  have hpos : 1 ≤ cycles * ticks.period := Nat.mul_pos hcycles hperiod
  have hlt := stream.cycleTimeNano.toNat_lt
  have hle : ticks.period ≤ cycles * ticks.period := Nat.le_mul_of_pos_left _ hcycles
  -- the last run is at most `cycles + 1` ticks ago
  have hgap := ticks.lastRun_gap cycles n
  obtain ⟨ago, hago⟩ := Nat.exists_eq_add_of_le (ticks.lastRun_le cycles n)
  have helapsed := ticks.elapsed_lt (ticks.lastRun cycles n) (ago + 1)
  have hsame : ticks.lastRun cycles n + (ago + 1) = n + 1 := by omega
  rw [hsame] at helapsed
  have hbound : (ago + 1 + 1) * ticks.period ≤ (cycles + 2) * ticks.period :=
    Nat.mul_le_mul_right _ (by omega)
  have hexpand : (cycles + 2) * ticks.period = cycles * ticks.period + 2 * ticks.period := by ring
  have hfits : ticks.instant (n + 1) - ticks.instant (ticks.lastRun cycles n) < 2 ^ 64 := by omega
  rw [due_iff_elapsed hlookup hfits, toNat_max_one, hcycleTime, max_eq_left hpos,
    ticks.runs_succ_iff]

/-- The head of a pass behind a steady run: the first pass starts the phase, at a later one the
stream's instant is known. -/
theorem head_of_pass {streams : List StreamConfig} {inputs : List SenderPassInput}
    {middle : SenderLocals} (hphase : locals.previousState ≠ some state)
    (hmiddle : runLoop (senderPass (party.senderTurn blake3 sourceMac) streams) locals inputs =
      .continues middle)
    (hlast : ∀ n, inputs.length = n + 1 → middle.previousState = some state ∧
      middle.lastSent.lookup stream.streamId.toUInt16 =
        some (ticks.instant (ticks.lastRun cycles n))) :
    ((middle.observe state).due stream.streamId.toUInt16 (max stream.cycleTimeNano 1)
        (ticks.instant inputs.length) = true ↔ ticks.Runs cycles inputs.length) ∧
      (¬ ticks.Runs cycles inputs.length →
        (middle.observe state).lastSent.lookup stream.streamId.toUInt16 =
          some (ticks.instant (ticks.lastRun cycles inputs.length))) := by
  cases hlength : inputs.length with
  -- the first pass sees a new state and has cleared the transmissions
  | zero =>
    rw [List.length_eq_zero_iff] at hlength
    subst hlength
    cases hmiddle
    have hcleared : (locals.observe state).lastSent = ∅ := by
      rw [SenderLocals.observe, if_pos hphase]
    refine ⟨iff_of_true ?_ (ticks.runs_zero cycles), ?_⟩
    · apply SenderLocals.due_of_unsent
      rw [hcleared]
      rfl
    · intro hnot
      exact absurd (ticks.runs_zero cycles) hnot
  -- a later pass finds the last transmission of the stream
  | succ n =>
    obtain ⟨hprevious, hlookup⟩ := hlast n hlength
    have hsame : middle.observe state = middle := by
      rw [SenderLocals.observe, if_neg (not_not.mpr hprevious)]
    rw [hsame]
    refine ⟨due_iff_runs hcycles hcycleTime hlookup, ?_⟩
    intro hnot
    rw [hlookup, ticks.lastRun_succ_of_not_runs cycles hnot]

include hids hactive hphase

/-- After a steady run of at least one pass the stream's instant is that of its last tick, and it
was sent at the ticks at which the job runs. -/
theorem steadyRun_spec {inputs : List SenderPassInput}
    (hsteady : ∀ k input, inputs[k]? = some input →
      SteadyPass state (ticks.instant k) stream.streamId.toUInt16 input)
    (hrun : runLoop (senderPass (party.senderTurn blake3 sourceMac) (before ++ stream :: after))
      locals inputs = .continues last) :
    (∀ n, inputs.length = n + 1 → last.previousState = some state ∧
      last.lastSent.lookup stream.streamId.toUInt16 =
        some (ticks.instant (ticks.lastRun cycles n))) ∧
    ∀ k < inputs.length,
      party.Transmits blake3 sourceMac (before ++ stream :: after) locals inputs stream k ↔
        ticks.Runs cycles k := by
  induction inputs using List.reverseRecOn generalizing last with
  | nil =>
    constructor
    · intro n hn
      cases hn
    · intro k hk
      cases hk
  | append_singleton inputs input ih =>
    obtain ⟨middle, hmiddle, hpass⟩ := runLoop_concat_eq_continues.mp hrun
    -- the ticks before the last are a steady run of their own
    have hsteadyEarlier : ∀ k earlier, inputs[k]? = some earlier →
        SteadyPass state (ticks.instant k) stream.streamId.toUInt16 earlier := by
      intro k earlier hk
      apply hsteady k earlier
      rw [List.getElem?_append_left (List.getElem?_eq_some_iff.mp hk).1]
      exact hk
    have hsteadyLast := hsteady inputs.length input List.getElem?_concat_length
    obtain ⟨hlast, htransmits⟩ := ih hsteadyEarlier hmiddle
    obtain ⟨hframes, hlength⟩ := runFrames_concat hmiddle input
    -- the last tick, from where the earlier ones have left the variables
    obtain ⟨hprevious, hlookup, hsent⟩ := steadyPass_spec hids hactive hsteadyLast hpass
    obtain ⟨hdue, hinstant⟩ := head_of_pass hcycles hcycleTime hphase hmiddle hlast
    rw [hdue] at hsent
    refine ⟨?_, ?_⟩
    -- the variables after the last tick
    · intro n hn
      rw [List.length_append, List.length_singleton, Nat.add_right_cancel_iff] at hn
      subst hn
      refine ⟨hprevious, hlookup.trans ?_⟩
      by_cases hruns : ticks.Runs cycles inputs.length
      · have hrun : ticks.lastRun cycles inputs.length = inputs.length := hruns
        rw [if_pos (hdue.mpr hruns), hrun]
      · rw [if_neg (mt hdue.mp hruns), hinstant hruns]
    -- the transmissions of the earlier ticks, then that of the last
    · intro k hk
      rw [List.length_append, List.length_singleton] at hk
      rw [L2Party.Transmits, hframes]
      rcases Nat.lt_or_ge k inputs.length with hlt | hge
      · rw [List.getD_append _ _ _ _ (hlength.symm ▸ hlt)]
        exact htransmits k hlt
      · have heq : k = inputs.length := by omega
        subst heq
        rw [List.getD_append_right _ _ _ _ (Nat.le_of_eq hlength), hlength, Nat.sub_self]
        exact hsent

end

end

/-! ## On schedule -/

/-- **A stream keeps its schedule exactly if no scheduled tick is less late than the one before.**
In a steady run that begins with its phase, for either party, consecutive transmissions of a
stream of `cycles` ticks are `cycles` ticks apart exactly if, wherever one more tick follows, no
tick at a multiple of `cycles` is less late than the multiple before it. Otherwise the stream
misses its tick and is sent at the one after it. -/
theorem transmissions_on_schedule_iff {blake3 : KeyedHash} {sourceMac : MacAddr}
    {party : L2Party} {before after : List StreamConfig} {stream : StreamConfig}
    (hids : ∀ other ∈ before ++ after, other.streamId.toUInt16 ≠ stream.streamId.toUInt16)
    {ticks : LateTicks} {cycles : ℕ} (hcycles : 1 ≤ cycles)
    (hcycleTime : stream.cycleTimeNano.toNat = cycles * ticks.period)
    {state : DeviceState} (hactive : state = .op ∨ state = .safeOp)
    {locals last : SenderLocals} (hphase : locals.previousState ≠ some state)
    {inputs : List SenderPassInput}
    (hsteady : ∀ k input, inputs[k]? = some input →
      SteadyPass state (ticks.instant k) stream.streamId.toUInt16 input)
    (hrun : runLoop (senderPass (party.senderTurn blake3 sourceMac) (before ++ stream :: after))
      locals inputs = .continues last) :
    (∀ i j, i < j → j < inputs.length →
      party.Transmits blake3 sourceMac (before ++ stream :: after) locals inputs stream i →
      party.Transmits blake3 sourceMac (before ++ stream :: after) locals inputs stream j →
      (∀ k, i < k → k < j →
        ¬ party.Transmits blake3 sourceMac (before ++ stream :: after) locals inputs stream k) →
      j = i + cycles) ↔
    ∀ i, (i + 1) * cycles + 1 < inputs.length →
      ticks.late (i * cycles) ≤ ticks.late ((i + 1) * cycles) := by
  -- a stream is transmitted at a tick exactly if it runs there
  have htransmits :=
    (steadyRun_spec hids hcycles hcycleTime hactive hphase hsteady hrun).2
  rw [← LateTicks.on_schedule_iff hcycles]
  -- consecutive transmissions and consecutive runs are the same pairs
  constructor
  · rintro h i j hj ⟨hij, hi, hj', hbetween⟩
    apply h i j hij hj ((htransmits i (hij.trans hj)).mpr hi) ((htransmits j hj).mpr hj')
    intro k hik hkj
    exact mt (htransmits k (hkj.trans hj)).mp (hbetween k hik hkj)
  · intro h i j hij hj hi hj' hbetween
    apply h i j hj
    refine ⟨hij, (htransmits i (hij.trans hj)).mp hi, (htransmits j hj).mp hj', ?_⟩
    intro k hik hkj
    exact mt (htransmits k (hkj.trans hj)).mpr (hbetween k hik hkj)

/-- A stream with a cycle of one millisecond, and passes at the given times in Op. -/
def millisecondOutput : StreamConfig :=
  { streamId := 1001, destinationMac := [0, 1, 2, 3, 4, 5], vlanIdPcp := 0x100,
    cycleTimeNano := 1000000, direction := 1, streamContent := some ⟨0, 0, 8⟩ }

def opPass (time : Instant) : SenderPassInput :=
  { state := .op
    turn := fun _ =>
      { state := .op
        checkedAt := time
        now := time
        readOutputs := fun _ => .ok [0]
        cycleCounter := 0
        store := (StreamStore.new zeroSecret).withEntry 1001 ⟨millisecondOutput, 0⟩
        sendFails := false } }

/-- Ticks of a millisecond; only the first one is late. -/
def firstTickLate : LateTicks :=
  { origin := 0
    period := 1000000
    late := fun k => if k = 0 then 500 else 0
    late_lt := by
      intro k
      split <;> decide }

/-- The ticks of a millisecond, none of them late. -/
def punctualTicks : LateTicks :=
  { origin := 0, period := 1000000, late := fun _ => 0, late_lt := fun _ => by decide }

/-- Passes at the given ticks. -/
def opPasses (ticks : LateTicks) (count : ℕ) : List SenderPassInput :=
  (List.range count).map (fun k => opPass (ticks.instant k))

theorem steadyPass_opPasses (ticks : LateTicks) (count k : ℕ) (input : SenderPassInput)
    (h : (opPasses ticks count)[k]? = some input) :
    SteadyPass .op (ticks.instant k) millisecondOutput.streamId.toUInt16 input := by
  rw [opPasses, List.getElem?_map] at h
  obtain ⟨index, hindex, rfl⟩ := Option.map_eq_some_iff.mp h
  obtain ⟨-, rfl⟩ := List.getElem?_eq_some_iff.mp hindex
  rw [List.getElem_range]
  exact ⟨rfl, fun _ => rfl, fun _ => rfl, fun _ => rfl, fun _ => rfl⟩

/-- Without lateness the stream is sent at consecutive ticks. -/
theorem transmissions_on_schedule_iff_punctual :
    ∃ last, runLoop (senderPass (L2Party.master.senderTurn (fun _ _ => zeroSecret) .zero)
        ([] ++ millisecondOutput :: [])) .start (opPasses punctualTicks 3) = .continues last ∧
      ∀ i j, i < j → j < 3 →
        L2Party.master.Transmits (fun _ _ => zeroSecret) .zero ([] ++ millisecondOutput :: [])
          .start (opPasses punctualTicks 3) millisecondOutput i →
        L2Party.master.Transmits (fun _ _ => zeroSecret) .zero ([] ++ millisecondOutput :: [])
          .start (opPasses punctualTicks 3) millisecondOutput j →
        (∀ k, i < k → k < j →
          ¬ L2Party.master.Transmits (fun _ _ => zeroSecret) .zero
            ([] ++ millisecondOutput :: []) .start (opPasses punctualTicks 3) millisecondOutput
            k) →
        j = i + 1 := by
  obtain ⟨last, hrun⟩ : ∃ last,
      runLoop (senderPass (L2Party.master.senderTurn (fun _ _ => zeroSecret) .zero)
        ([] ++ millisecondOutput :: [])) .start (opPasses punctualTicks 3) = .continues last :=
    ⟨_, rfl⟩
  refine ⟨last, hrun, ?_⟩
  exact (transmissions_on_schedule_iff (fun other h => by cases h) (Nat.le_refl 1) rfl (.inl rfl)
    (fun h => by cases h) (steadyPass_opPasses punctualTicks 3) hrun).mpr
    (fun _ _ => Nat.le_refl 0)

/-- The first tick is half a microsecond late and the others are punctual: the stream, whose
cycle is one tick, is sent at the ticks 0 and 2 and misses tick 1. -/
theorem not_transmissions_on_schedule_firstTickLate :
    tickPeriod [millisecondOutput] = some 1000000 ∧
    ¬ ∀ i j, i < j → j < 3 →
      L2Party.slave.Transmits (fun _ _ => zeroSecret) .zero ([] ++ millisecondOutput :: [])
        .start (opPasses firstTickLate 3) millisecondOutput i →
      L2Party.slave.Transmits (fun _ _ => zeroSecret) .zero ([] ++ millisecondOutput :: [])
        .start (opPasses firstTickLate 3) millisecondOutput j →
      (∀ k, i < k → k < j →
        ¬ L2Party.slave.Transmits (fun _ _ => zeroSecret) .zero ([] ++ millisecondOutput :: [])
          .start (opPasses firstTickLate 3) millisecondOutput k) →
      j = i + 1 := by
  refine ⟨rfl, ?_⟩
  obtain ⟨last, hrun⟩ : ∃ last,
      runLoop (senderPass (L2Party.slave.senderTurn (fun _ _ => zeroSecret) .zero)
        ([] ++ millisecondOutput :: [])) .start (opPasses firstTickLate 3) = .continues last :=
    ⟨_, rfl⟩
  have htransmits := (@steadyRun_spec (fun _ _ => zeroSecret) .zero .slave .op [] []
    millisecondOutput (fun other h => by cases h) firstTickLate 1 (Nat.le_refl 1) rfl (.inl rfl)
    .start last (fun h => by cases h) _ (steadyPass_opPasses firstTickLate 3) hrun).2
  intro h
  have hgap := h 0 2 (by decide) (by decide) ((htransmits 0 (by decide)).mpr (by decide))
    ((htransmits 2 (by decide)).mpr (by decide)) (by
      intro k hk hk'
      have heq : k = 1 := by omega
      rw [heq]
      exact mt (htransmits 1 (by decide)).mp (by decide))
  omega

end TsnFieldbus
