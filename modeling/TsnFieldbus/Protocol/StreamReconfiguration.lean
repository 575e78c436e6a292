import TsnFieldbus.Foundations.TransitionSystem
import TsnFieldbus.Slave.L2Handler

/-!
# Replay Protection across Stream Reconfiguration

Whole runs of a slave: state changes and ConfigureStreams requests through the API, the
receiver and sender threads of the L2 handler, any received frames.

The sequence state of a stream lives inside its entry, and a successful ConfigureStreams
deletes all entries and adds new ones at their initial numbers:
- `accepted_frame_refused_until_reconfigured`: what was accepted is refused until the next
  successful ConfigureStreams, and after it is accepted again exactly when its stream is
  configured and its number exceeds the initial one.
- `accepted_frame_accepted_after_reconfiguration`: a run in which this happens.
-/

namespace TsnFieldbus

open Foundations StreamStore

/-- The threads of a running L2 handler. -/
structure L2Threads where
  /-- The receiver's stream map, while the thread runs. -/
  streamMap : Option (HashMap UInt16 StreamConfig)
  /-- The receiver has read the state Op and waits for a frame. -/
  receiving : Bool
  /-- The sender's streams, while the thread runs. -/
  outputStreams : List StreamConfig

/-- A slave after discovery: its API service and its L2 threads. -/
structure SlaveRuntime where
  service : SlaveApiService
  threads : L2Threads

/-- One atomic step of a slave. -/
inductive SlaveRuntimeEvent where
  | setTargetState (tokens : String → Bool) (request : Request SetTargetStateRequest)
      (timestamp : UInt64)
  | configureStreams (tokens : String → Bool)
      (layout : Except HardwareError (List ProcessVariable))
      (request : Request ConfigureStreamsRequest)
  | startL2Handler
  | receiverCheck
  | receive (frame : Frame)
  | send (sourceMac : MacAddr) (readOutputs : Position → Except StatusCode (List UInt8))
      (cycleCounter : UInt16) (stream : StreamConfig)
  | senderExit

namespace SlaveRuntime

variable (blake3 : KeyedHash)

/-- The slave with another stream store. -/
def withStore (s : SlaveRuntime) (store : StreamStore) : SlaveRuntime :=
  { s with service := { s.service with streamStore := store } }

/-- The effect of one step. -/
def step (s : SlaveRuntime) : SlaveRuntimeEvent → Option SlaveRuntime
  | .setTargetState tokens request timestamp =>
    some { s with service := (s.service.setTargetState tokens request timestamp).2 }
  | .configureStreams tokens layout request =>
    some { s with service := (s.service.configureStreams tokens layout request).2 }
  | .startL2Handler =>
    let store := s.service.streamStore
    some
      { s with
        threads :=
          { streamMap := some (receiverStreamMap (store.getStreamsByDirection .input))
            receiving := false
            outputStreams := store.getStreamsByDirection .output } }
  | .receiverCheck =>
    match s.service.statusStore.current.state with
    | .op => some { s with threads := { s.threads with receiving := true } }
    | .safeOp => some s
    | _ => some { s with threads := { s.threads with streamMap := none } }
  | .receive frame =>
    match s.threads.streamMap, s.threads.receiving with
    | some streamMap, true =>
      let store := (receiveL2Frame blake3 streamMap s.service.streamStore frame).2
      some { s.withStore store with threads := { s.threads with receiving := false } }
    | _, _ => none
  | .send sourceMac readOutputs cycleCounter stream =>
    if stream ∈ s.threads.outputStreams then
      some (s.withStore
        (sendL2Stream blake3 sourceMac readOutputs cycleCounter s.service.streamStore stream).2)
    else none
  | .senderExit => some { s with threads := { s.threads with outputStreams := [] } }

/-- The receiver thread is about to take the frame and its tag validation succeeds. -/
def Accepts (s : SlaveRuntime) (frame : Frame) : Prop :=
  s.threads.receiving = true ∧ ∃ streamMap ∈ s.threads.streamMap,
    (receiveL2Frame blake3 streamMap s.service.streamStore frame).1.validated = true

instance (s : SlaveRuntime) (frame : Frame) : Decidable (s.Accepts blake3 frame) :=
  inferInstanceAs (Decidable (_ ∧ ∃ streamMap ∈ s.threads.streamMap, _))

/-- `validate_stream_tag` would accept the parsed frame in the present store. -/
def Validates (s : SlaveRuntime) (parsed : ParsedL2Frame) : Prop :=
  (s.service.streamStore.validateStreamTag blake3 parsed.header parsed.payload
    parsed.sequenceNumber parsed.authTag).1 = .ok true

/-- The event is a ConfigureStreams request that succeeds. -/
def Reconfigures (s : SlaveRuntime) : SlaveRuntimeEvent → Prop
  | .configureStreams tokens layout request =>
    (s.service.configureStreams tokens layout request).1 = .ok .noError
  | _ => False

instance (s : SlaveRuntime) (event : SlaveRuntimeEvent) : Decidable (s.Reconfigures event) := by
  cases event <;> unfold Reconfigures <;> infer_instance

/-- Condition on a step: it does not reconfigure the streams. -/
def KeepsStreams (s : SlaveRuntime) (event : SlaveRuntimeEvent) : Prop := ¬ s.Reconfigures event

instance (s : SlaveRuntime) (event : SlaveRuntimeEvent) : Decidable (s.KeepsStreams event) :=
  inferInstanceAs (Decidable (¬ _))

/-! ## One step -/

/-- The mark of stream `id` is at least `seq`. -/
def MarkAtLeast (id : UInt16) (seq : UInt64) (s : SlaveRuntime) : Prop :=
  ∃ e, s.service.streamStore.entry id = some e ∧ seq ≤ e.sequenceNumber

/-- No step changes the shared secret, and a step that does not reconfigure the streams only
raises their sequence numbers. -/
theorem streamStore_step {s t : SlaveRuntime} {event : SlaveRuntimeEvent}
    (hstep : s.step blake3 event = some t) :
    t.service.streamStore.sharedSecret = s.service.streamStore.sharedSecret ∧
      (s.Reconfigures event ∨ Raises s.service.streamStore t.service.streamStore) := by
  cases event with
  | setTargetState tokens request timestamp =>
    cases hstep
    rw [SlaveApiService.streamStore_setTargetState]
    exact ⟨rfl, .inr (Raises.refl _)⟩
  | configureStreams tokens layout request =>
    cases hstep
    rcases s.service.configureStreams_cases tokens layout request with ⟨-, hsame⟩ | ⟨hok, hnew⟩
    · rw [hsame]
      exact ⟨rfl, .inr (Raises.refl _)⟩
    · exact ⟨hnew.sharedSecret, .inl hok⟩
  | startL2Handler =>
    cases hstep
    exact ⟨rfl, .inr (Raises.refl _)⟩
  | receiverCheck =>
    simp only [step] at hstep
    split at hstep <;> cases hstep <;> exact ⟨rfl, .inr (Raises.refl _)⟩
  | receive frame =>
    simp only [step] at hstep
    split at hstep
    · rename_i streamMap _ _
      cases hstep
      simp only [withStore]
      -- an accepted frame raises the mark of its stream
      rcases receiveL2Frame_cases blake3 streamMap s.service.streamStore frame with
        ⟨-, hsame⟩ | ⟨parsed, e, -, -, hentry, hlt, -, heq⟩
      · rw [hsame]
        exact ⟨rfl, .inr (Raises.refl _)⟩
      · rw [heq]
        exact ⟨rfl, .inr (raises_withEntry hentry (UInt64.le_of_lt hlt))⟩
    · cases hstep
  | send sourceMac readOutputs cycleCounter stream =>
    simp only [step] at hstep
    split at hstep
    · cases hstep
      simp only [withStore]
      -- a frame that is sent advances the counter of its stream
      rcases sendL2Stream_cases blake3 sourceMac readOutputs cycleCounter s.service.streamStore
        stream with hsame | ⟨other, e, hentry, heq⟩
      · rw [hsame]
        exact ⟨rfl, .inr (Raises.refl _)⟩
      · rw [heq]
        exact ⟨rfl, .inr (raises_withEntry hentry (le_saturatingAdd_one _))⟩
    · cases hstep
  | senderExit =>
    cases hstep
    exact ⟨rfl, .inr (Raises.refl _)⟩

/-- Whatever does not reconfigure the streams keeps every mark. -/
theorem markAtLeast_step {id : UInt16} {seq : UInt64} (s : SlaveRuntime)
    (event : SlaveRuntimeEvent) (t : SlaveRuntime) (h : MarkAtLeast id seq s)
    (hkeep : s.KeepsStreams event) (hstep : s.step blake3 event = some t) :
    MarkAtLeast id seq t := by
  obtain ⟨-, hreconf | hraise⟩ := streamStore_step blake3 hstep
  · exact absurd hreconf hkeep
  · obtain ⟨e, hentry, hle⟩ := h
    obtain ⟨e', hentry', -, hle'⟩ := hraise id e hentry
    exact ⟨e', hentry', UInt64.le_trans hle hle'⟩

/-- Receiving an accepted frame raises the mark of its stream to the frame's number. -/
theorem markAtLeast_of_accepts {s t : SlaveRuntime} {frame : Frame} {parsed : ParsedL2Frame}
    (hparse : parseL2Frame frame = .ok parsed) (haccept : s.Accepts blake3 frame)
    (hstep : s.step blake3 (.receive frame) = some t) :
    MarkAtLeast parsed.header.streamId parsed.sequenceNumber t ∧
      s.service.streamStore.Authentic blake3 parsed.header parsed.payload parsed.sequenceNumber
        parsed.authTag := by
  obtain ⟨hreceiving, streamMap, hmap, hvalidated⟩ := haccept
  rw [Option.mem_def] at hmap
  simp only [step, hmap, hreceiving] at hstep
  cases hstep
  rcases receiveL2Frame_cases blake3 streamMap s.service.streamStore frame with
    ⟨hno, -⟩ | ⟨parsed', e, hparse', -, hentry, hlt, hauth, heq⟩
  · rw [hno] at hvalidated
    cases hvalidated
  · rw [hparse, Except.ok.injEq] at hparse'
    subst hparse'
    refine ⟨⟨{ e with sequenceNumber := parsed.sequenceNumber }, ?_, UInt64.le_refl _⟩, hauth⟩
    simp only [withStore, heq, entry_withEntry]

/-- A mark that has reached the number of a frame refuses the frame. -/
theorem not_validates_of_markAtLeast {s : SlaveRuntime} {parsed : ParsedL2Frame}
    (h : MarkAtLeast parsed.header.streamId parsed.sequenceNumber s) :
    ¬ s.Validates blake3 parsed := by
  obtain ⟨e, hentry, hle⟩ := h
  intro hvalid
  obtain ⟨e', hentry', hlt, -⟩ := (validateStreamTag_eq_ok_true_iff blake3 _ _ _ _ _).mp hvalid
  rw [hentry, Option.some.injEq] at hentry'
  subst hentry'
  exact absurd (UInt64.lt_of_lt_of_le hlt hle) (UInt64.lt_irrefl _)

/-! ## Reconfiguration -/

/-- After a successful ConfigureStreams, an authentic frame is accepted exactly when its
stream is configured and its number exceeds the stream's initial one. -/
theorem validates_of_reconfigured_iff {s t : SlaveRuntime} {streams : List StreamConfig}
    {parsed : ParsedL2Frame}
    (hnew : SlaveApiService.Reconfigured s.service t.service streams)
    (hauth : s.service.streamStore.Authentic blake3 parsed.header parsed.payload
      parsed.sequenceNumber parsed.authTag) :
    t.Validates blake3 parsed ↔ ∃ stream ∈ streams,
      stream.streamId.toUInt16 = parsed.header.streamId ∧
      ∃ initial, initialSequenceNumber stream.direction = .ok initial ∧
        initial < parsed.sequenceNumber := by
  have hauth' : t.service.streamStore.Authentic blake3 parsed.header parsed.payload
      parsed.sequenceNumber parsed.authTag := by
    unfold Authentic at hauth ⊢
    rw [hnew.sharedSecret]
    exact hauth
  rw [Validates, validateStreamTag_eq_ok_true_iff]
  constructor
  -- an accepted frame meets an entry, which is that of a requested stream
  · rintro ⟨e, hentry, hlt, -⟩
    obtain ⟨hmem, hid⟩ := hnew.only _ e hentry
    obtain ⟨initial, hinitial, hfresh⟩ := hnew.fresh _ hmem
    rw [hid, hentry, Option.some.injEq] at hfresh
    refine ⟨e.streamConfig, hmem, hid, initial, hinitial, ?_⟩
    rw [hfresh] at hlt
    exact hlt
  -- every requested stream has its entry at the initial number
  · rintro ⟨stream, hmem, hid, initial, hinitial, hlt⟩
    obtain ⟨initial', hinitial', hfresh⟩ := hnew.fresh _ hmem
    rw [hinitial, Except.ok.injEq] at hinitial'
    subst hinitial'
    exact ⟨_, hid ▸ hfresh, hlt, hauth'⟩

/-- **Replay protection between reconfigurations**: a frame that `validate_stream_tag` has
accepted is not accepted again in any continuation without a successful ConfigureStreams.
Right after the next successful one it is accepted exactly when its stream is among the
configured ones and its number exceeds the initial number of the stream's direction. -/
theorem accepted_frame_refused_until_reconfigured {s t u : SlaveRuntime} {frame : Frame}
    {parsed : ParsedL2Frame} {events : List SlaveRuntimeEvent}
    (hparse : parseL2Frame frame = .ok parsed) (haccept : s.Accepts blake3 frame)
    (hreceive : s.step blake3 (.receive frame) = some t)
    (hkeep : EveryStep (step blake3) KeepsStreams t events)
    (hrun : execute (step blake3) t events = some u) :
    ¬ u.Validates blake3 parsed ∧
    ∀ tokens layout request v,
      u.Reconfigures (.configureStreams tokens layout request) →
      u.step blake3 (.configureStreams tokens layout request) = some v →
      (v.Validates blake3 parsed ↔ ∃ stream ∈ request.message.streams,
        stream.streamId.toUInt16 = parsed.header.streamId ∧
        ∃ initial, initialSequenceNumber stream.direction = .ok initial ∧
          initial < parsed.sequenceNumber) := by
  obtain ⟨hmark, hauth⟩ := markAtLeast_of_accepts blake3 hparse haccept hreceive
  have hsecret : u.service.streamStore.sharedSecret = s.service.streamStore.sharedSecret :=
    (execute_observable_eq (fun r : SlaveRuntime => r.service.streamStore.sharedSecret)
      (fun _ _ _ hr => (streamStore_step blake3 hr).1) hrun).trans
        (streamStore_step blake3 hreceive).1
  have hauth' : u.service.streamStore.Authentic blake3 parsed.header parsed.payload
      parsed.sequenceNumber parsed.authTag := by
    unfold Authentic at hauth ⊢
    rw [hsecret]
    exact hauth
  -- the mark reached by the frame stays until the streams are replaced
  refine ⟨?_, ?_⟩
  · exact not_validates_of_markAtLeast blake3
      (execute_invariant_of_guarded (markAtLeast_step blake3) hmark hkeep hrun)
  · intro tokens layout request v hreconf hstep
    cases hstep
    rcases u.service.configureStreams_cases tokens layout request with ⟨hno, -⟩ | ⟨-, hnew⟩
    · exact absurd hreconf hno
    · exact validates_of_reconfigured_iff blake3 hnew hauth'

/-! ### A frame before and after a reconfiguration -/

/-- A slave in PreOp without streams. -/
def preOpSlave : SlaveRuntime :=
  { service :=
      { stateManager := ⟨.preOp⟩
        statusStore := (DeviceStatusStore.new 0).updateState .preOp 0
        streamStore := .new zeroSecret }
    threads := { streamMap := none, receiving := false, outputStreams := [] } }

/-- SetTargetState with a valid token. -/
def requestState (targetState : Int32) : SlaveRuntimeEvent :=
  .setTargetState (fun _ => true) { token := some "t", message := { targetState := targetState } } 0

/-- ConfigureStreams with the input stream 5 of one byte. -/
def requestInputStream : SlaveRuntimeEvent :=
  .configureStreams (fun _ => true) (.ok [⟨"valve", 0, 0, 0, 0, 8⟩])
    { token := some "t"
      message :=
        { streams := [{ streamId := 5, destinationMac := [0, 1, 2, 3, 4, 5], vlanIdPcp := 0,
                        cycleTimeNano := 250000, direction := 0,
                        streamContent := some ⟨0, 0, 8⟩ }] } }

/-- From PreOp: configure, enter Op and wait for a frame. -/
def configureAndEnterOp : List SlaveRuntimeEvent :=
  [requestInputStream, requestState 3, .startL2Handler, requestState 4, .receiverCheck]

/-- A frame of stream 5. -/
def inputStreamFrame : Frame :=
  buildL2Frame ⟨0, 0, 0, 0, 0, 1⟩ ⟨0, 1, 2, 3, 4, 5⟩ 0 (.new 5 0 0) [7]
    { sequenceNumber := 1
      authTag := tagOf checksumHash zeroSecret (signedL2Bytes (.new 5 0 0) [7] 1) }

/-- The slave accepts the frame, returns to PreOp, is configured again, enters Op and accepts
the same frame a second time. -/
theorem accepted_frame_accepted_after_reconfiguration :
    ∃ s t u : SlaveRuntime,
      execute (step checksumHash) preOpSlave configureAndEnterOp = some s ∧
      s.Accepts checksumHash inputStreamFrame ∧
      s.step checksumHash (.receive inputStreamFrame) = some t ∧
      execute (step checksumHash) t (requestState 3 :: requestState 2 :: configureAndEnterOp)
        = some u ∧
      u.Accepts checksumHash inputStreamFrame :=
  ⟨_, _, _, rfl, by decide +kernel, rfl, rfl, by decide +kernel⟩

/-- Back in PreOp the accepted frame is still refused. -/
theorem accepted_frame_refused_until_reconfigured_back_in_preOp :
    ∃ (s t u : SlaveRuntime) (parsed : ParsedL2Frame),
      execute (step checksumHash) preOpSlave configureAndEnterOp = some s ∧
      parseL2Frame inputStreamFrame = .ok parsed ∧
      s.step checksumHash (.receive inputStreamFrame) = some t ∧
      execute (step checksumHash) t [requestState 3, requestState 2] = some u ∧
      ¬ u.Validates checksumHash parsed := by
  obtain ⟨s, hstart, haccept, t, hreceive, u, hrun⟩ : ∃ s : SlaveRuntime,
      execute (step checksumHash) preOpSlave configureAndEnterOp = some s ∧
      s.Accepts checksumHash inputStreamFrame ∧
      ∃ t, s.step checksumHash (.receive inputStreamFrame) = some t ∧
      ∃ u, execute (step checksumHash) t [requestState 3, requestState 2] = some u :=
    ⟨_, rfl, by decide +kernel, _, rfl, _, rfl⟩
  have hparse := parseL2Frame_build ⟨0, 0, 0, 0, 0, 1⟩ ⟨0, 1, 2, 3, 4, 5⟩ 0 (.new 5 0 0) [7]
    { sequenceNumber := 1
      authTag := tagOf checksumHash zeroSecret (signedL2Bytes (.new 5 0 0) [7] 1) }
  have hkeep : EveryStep (step checksumHash) KeepsStreams t [requestState 3, requestState 2] :=
    ⟨id, fun _ _ => ⟨id, fun _ _ => trivial⟩⟩
  exact ⟨s, t, u, _, hstart, hparse, hreceive, hrun,
    (accepted_frame_refused_until_reconfigured checksumHash hparse haccept hreceive hkeep hrun).1⟩

end SlaveRuntime

end TsnFieldbus
