import TsnFieldbus.Foundations.TransitionSystem
import TsnFieldbus.Slave.L2Handler

/-!
# The Receiver Thread among Other Tasks

The loop of `spawn_receiver_thread` one shared access at a time: the state check, the
blocking `receiver.next()`, the tag validation under the store's lock and the call of
`write_inputs`. Between any two of them frames may reach the socket and other tasks may
change the device state. Whatever the thread does in between is local and belongs to the step
before it; so do its reports, which change the status code only.

The history variables `past`, `arrived` and `writes` are read by no step.

- `inputs_written_in_op`: without a change of state behind the thread's back, inputs are
  written in `op` only.
- `safeOp_frames_wait_for_op`: what holds of frames that arrive in `safeOp`.
- `execute_iteration`: without interruption the steps are one `receiveL2Frame`.
-/

namespace TsnFieldbus

open Foundations

/-! ## The system -/

/-- A frame that reached the socket, and how many state updates had happened by then. -/
structure Arrival where
  frame : Frame
  moment : ℕ
deriving DecidableEq

/-- Where the receiver thread is in its loop. `checked` is the moment of the iteration's
state check. -/
inductive ReceiverPhase where
  /-- At the top of the loop. -/
  | checking
  /-- Found `op`, at `receiver.next()`. -/
  | receiving (checked : ℕ)
  /-- Has a parsed frame of a known stream, before the tag validation. -/
  | authenticating (checked : ℕ) (arrival : Arrival) (parsed : ParsedL2Frame)
      (stream : StreamConfig)
  /-- Has validated the frame and its status, before the process image. -/
  | writing (checked : ℕ) (arrival : Arrival) (stream : StreamConfig) (payload : List UInt8)
  | exited

/-- A call of `write_inputs`, the frame it stems from and the moments of check and call. -/
structure WriteRecord where
  write : InputWrite
  arrival : Arrival
  checked : ℕ
  moment : ℕ
deriving DecidableEq

/-- The receiver thread with everything it shares. -/
structure ReceiverThread where
  statusStore : DeviceStatusStore
  streamMap : HashMap UInt16 StreamConfig
  store : StreamStore
  /-- Frames in the receive buffer, oldest first. -/
  socket : List Arrival
  phase : ReceiverPhase
  /-- The device states before the current one, oldest first. -/
  past : List DeviceState
  /-- All frames that have reached the socket, in order. -/
  arrived : List Arrival
  /-- All writes so far, in order. -/
  writes : List WriteRecord

/-- One move: of another task, of the network, or of the receiver thread. -/
inductive ReceiverEvent where
  | updateState (state : DeviceState) (timestamp : UInt64)
  | arrive (frame : Frame)
  | check
  | receiverError
  | next
  | authenticate
  | write
deriving DecidableEq

/-- The frame the thread is working on. -/
def ReceiverPhase.pending : ReceiverPhase → List Arrival
  | .authenticating _ arrival _ _ | .writing _ arrival _ _ => [arrival]
  | .checking | .receiving _ | .exited => []

/-- The moment of the state check the thread has passed and not yet come back to. -/
def ReceiverPhase.passedCheck : ReceiverPhase → Option ℕ
  | .receiving checked | .authenticating checked _ _ _ | .writing checked _ _ _ => some checked
  | .checking | .exited => none

namespace ReceiverThread

variable (blake3 : KeyedHash)

/-- The recorded device state. -/
def state (s : ReceiverThread) : DeviceState := s.statusStore.current.state

/-- The number of state updates so far. -/
def now (s : ReceiverThread) : ℕ := s.past.length

/-- The device state at a moment up to now. -/
def stateAt (s : ReceiverThread) (moment : ℕ) : Option DeviceState :=
  (s.past ++ [s.state])[moment]?

/-- Report a status code and go back to the top of the loop. -/
def refuse (s : ReceiverThread) (code : StatusCode) : ReceiverThread :=
  { s with statusStore := s.statusStore.updateStatusCode code, phase := .checking }

/-- `parse_l2_frame` and the lookup of the stream, on a frame just received. -/
def accept (s : ReceiverThread) (checked : ℕ) (arrival : Arrival) : ReceiverThread :=
  match parseL2Frame arrival.frame with
  | .error .errInvalidEthertype => { s with phase := .checking }
  | .error _ => s.refuse .errFrameParsing
  | .ok parsed =>
    match s.streamMap.lookup parsed.header.streamId with
    | none => s.refuse .errStreamIdUnknown
    | some stream => { s with phase := .authenticating checked arrival parsed stream }

/-- The effect of one move. -/
def step (s : ReceiverThread) : ReceiverEvent → Option ReceiverThread
  | .updateState state timestamp =>
    some
      { s with
        statusStore := s.statusStore.updateState state timestamp
        past := s.past ++ [s.state] }
  | .arrive frame =>
    some
      { s with
        socket := s.socket ++ [⟨frame, s.now⟩]
        arrived := s.arrived ++ [⟨frame, s.now⟩] }
  | .check =>
    match s.phase with
    | .checking =>
      match s.state with
      -- sleeps and starts over
      | .safeOp => some s
      | .op => some { s with phase := .receiving s.now }
      | _ => some { s with phase := .exited }
    | _ => none
  | .receiverError =>
    match s.phase with
    | .receiving _ => some { s with phase := .checking }
    | _ => none
  | .next =>
    match s.phase, s.socket with
    | .receiving checked, arrival :: socket =>
      some ({ s with socket := socket }.accept checked arrival)
    | _, _ => none
  | .authenticate =>
    match s.phase with
    | .authenticating checked arrival parsed stream =>
      match s.store.validateStreamTag blake3 parsed.header parsed.payload parsed.sequenceNumber
        parsed.authTag with
      | (.error code, store) => some ({ s with store := store }.refuse code)
      | (.ok false, store) => some ({ s with store := store }.refuse .errAuthFailed)
      | (.ok true, store) =>
        if parsed.header.status ≠ StatusCode.noError.toU8 then
          some ({ s with store := store }.refuse .errFrameWithErrorStatus)
        else
          some { s with store := store, phase := .writing checked arrival stream parsed.payload }
    | _ => none
  | .write =>
    match s.phase with
    | .writing checked arrival stream payload =>
      match handleInputPacket stream payload with
      | .error code => some (s.refuse code)
      | .ok write =>
        some
          { s with
            phase := .checking
            writes := s.writes ++ [⟨write, arrival, checked, s.now⟩] }
    | _ => none

/-- The thread as it is spawned. -/
def start (statusStore : DeviceStatusStore) (streamMap : HashMap UInt16 StreamConfig)
    (store : StreamStore) : ReceiverThread :=
  { statusStore := statusStore
    streamMap := streamMap
    store := store
    socket := []
    phase := .checking
    past := []
    arrived := []
    writes := [] }

/-! ## One step -/

@[simp] theorem state_refuse (s : ReceiverThread) (code : StatusCode) :
    (s.refuse code).state = s.state :=
  DeviceStatusStore.state_updateStatusCode _ _

/-- The history is the same before and after. -/
structure Unrecorded (s t : ReceiverThread) : Prop where
  past : t.past = s.past
  state : t.state = s.state
  arrived : t.arrived = s.arrived
  writes : t.writes = s.writes

theorem unrecorded_refuse (s : ReceiverThread) (code : StatusCode) :
    Unrecorded s (s.refuse code) := ⟨rfl, state_refuse s code, rfl, rfl⟩

theorem Unrecorded.stateAt {s t : ReceiverThread} (h : Unrecorded s t) (moment : ℕ) :
    t.stateAt moment = s.stateAt moment := by
  rw [ReceiverThread.stateAt, ReceiverThread.stateAt, h.past, h.state]

theorem Unrecorded.now {s t : ReceiverThread} (h : Unrecorded s t) : t.now = s.now :=
  congrArg List.length h.past

/-- A received frame is dropped or kept for its tag validation. -/
theorem accept_cases (s : ReceiverThread) (checked : ℕ) (arrival : Arrival) :
    Unrecorded s (s.accept checked arrival) ∧ (s.accept checked arrival).socket = s.socket ∧
      ((s.accept checked arrival).phase = .checking ∨
        ∃ parsed stream,
          (s.accept checked arrival).phase = .authenticating checked arrival parsed stream) := by
  unfold accept
  split
  · exact ⟨⟨rfl, rfl, rfl, rfl⟩, rfl, .inl rfl⟩
  · exact ⟨unrecorded_refuse s _, rfl, .inl rfl⟩
  · split
    · exact ⟨unrecorded_refuse s _, rfl, .inl rfl⟩
    · exact ⟨⟨rfl, rfl, rfl, rfl⟩, rfl, .inr ⟨_, _, rfl⟩⟩

/-- What a move of the receiver thread is to the history: it goes back to the top of its loop,
passes its state check, proceeds with its frame, or writes. -/
theorem threadStep_cases {s t : ReceiverThread} {event : ReceiverEvent}
    (hstep : s.step blake3 event = some t) :
    (∃ state timestamp, event = .updateState state timestamp ∧
      t = { s with
        statusStore := s.statusStore.updateState state timestamp
        past := s.past ++ [s.state] }) ∨
    (∃ frame, event = .arrive frame ∧
      t = { s with
        socket := s.socket ++ [⟨frame, s.now⟩]
        arrived := s.arrived ++ [⟨frame, s.now⟩] }) ∨
    (Unrecorded s t ∧ t.phase.passedCheck = none ∧
      t.phase.pending ++ t.socket <:+ s.phase.pending ++ s.socket) ∨
    (Unrecorded s t ∧ s.state = .op ∧ s.phase = .checking ∧ t.phase = .receiving s.now ∧
      t.socket = s.socket) ∨
    (Unrecorded s t ∧ t.phase.passedCheck = s.phase.passedCheck ∧
      t.phase.pending ++ t.socket = s.phase.pending ++ s.socket) ∨
    (∃ checked arrival stream payload write,
      s.phase = .writing checked arrival stream payload ∧
      handleInputPacket stream payload = .ok write ∧
      t = { s with
        phase := .checking
        writes := s.writes ++ [⟨write, arrival, checked, s.now⟩] }) := by
  cases event with
  | updateState state timestamp =>
    cases hstep
    exact .inl ⟨state, timestamp, rfl, rfl⟩
  | arrive frame =>
    cases hstep
    exact .inr (.inl ⟨frame, rfl, rfl⟩)
  | check =>
    -- asleep in `safeOp`, on to the socket in `op`, out of the loop otherwise
    right; right
    simp only [step] at hstep
    split at hstep
    · rename_i hphase
      have hpending : s.phase.pending = [] := by rw [hphase]; rfl
      split at hstep
      · cases hstep
        exact .inl ⟨⟨rfl, rfl, rfl, rfl⟩, by rw [hphase]; rfl, List.suffix_refl _⟩
      · rename_i hop
        cases hstep
        exact .inr (.inl ⟨⟨rfl, rfl, rfl, rfl⟩, hop, hphase, rfl, rfl⟩)
      · cases hstep
        refine .inl ⟨⟨rfl, rfl, rfl, rfl⟩, rfl, ?_⟩
        rw [hpending]
        exact List.suffix_refl _
    · cases hstep
  | receiverError =>
    right; right; left
    simp only [step] at hstep
    split at hstep
    · rename_i hphase
      cases hstep
      refine ⟨⟨rfl, rfl, rfl, rfl⟩, rfl, ?_⟩
      rw [hphase]
      exact List.suffix_refl _
    · cases hstep
  | next =>
    -- the oldest frame leaves the socket and is dropped or held
    right; right
    simp only [step] at hstep
    split at hstep
    · rename_i checked arrival socket hphase hsocket
      cases hstep
      obtain ⟨hsame, hrest, hback | ⟨parsed, stream, hkept⟩⟩ :=
        accept_cases { s with socket := socket } checked arrival
      · refine .inl ⟨⟨hsame.past, hsame.state, hsame.arrived, hsame.writes⟩, ?_, ?_⟩
        · rw [hback]; rfl
        · rw [hback, hrest, hphase, hsocket]
          exact List.suffix_cons arrival socket
      · refine .inr (.inr (.inl ⟨⟨hsame.past, hsame.state, hsame.arrived, hsame.writes⟩, ?_, ?_⟩))
        · rw [hkept, hphase]; rfl
        · rw [hkept, hrest, hphase, hsocket]; rfl
    · cases hstep
  | authenticate =>
    right; right
    simp only [step] at hstep
    split at hstep
    · rename_i checked arrival parsed stream hphase
      -- refused frames are dropped, whatever the reason
      have hdropped (store : StreamStore) (code : StatusCode) :
          Unrecorded s ({ s with store := store }.refuse code) ∧
            ({ s with store := store }.refuse code).phase.passedCheck = none ∧
            ({ s with store := store }.refuse code).phase.pending ++
              ({ s with store := store }.refuse code).socket <:+ s.phase.pending ++ s.socket := by
        refine ⟨⟨rfl, state_refuse _ code, rfl, rfl⟩, rfl, ?_⟩
        rw [hphase]
        exact List.suffix_cons arrival s.socket
      split at hstep
      · cases hstep
        exact .inl (hdropped _ _)
      · cases hstep
        exact .inl (hdropped _ _)
      · split at hstep
        · cases hstep
          exact .inl (hdropped _ _)
        -- authentic, and its header says `noError`
        · cases hstep
          refine .inr (.inr (.inl ⟨⟨rfl, rfl, rfl, rfl⟩, ?_, ?_⟩))
          · rw [hphase]; rfl
          · rw [hphase]; rfl
    · cases hstep
  | write =>
    -- the payload may still be too short for the stream
    right; right
    simp only [step] at hstep
    split at hstep
    · rename_i checked arrival stream payload hphase
      split at hstep
      · cases hstep
        refine .inl ⟨unrecorded_refuse s _, rfl, ?_⟩
        rw [hphase]
        exact List.suffix_cons arrival s.socket
      · rename_i write hwrite
        cases hstep
        exact .inr (.inr (.inr ⟨checked, arrival, stream, payload, write, hphase, hwrite, rfl⟩))
    · cases hstep

/-- A state update appends a moment and changes no earlier one. -/
theorem stateAt_updateState {s : ReceiverThread} {state : DeviceState} {timestamp : UInt64}
    {moment : ℕ} {found : DeviceState} (h : s.stateAt moment = some found) :
    ReceiverThread.stateAt
      { s with
        statusStore := s.statusStore.updateState state timestamp
        past := s.past ++ [s.state] } moment = some found := by
  obtain ⟨hlt, hget⟩ := List.getElem?_eq_some_iff.mp h
  rw [ReceiverThread.stateAt, List.getElem?_append_left hlt]
  exact h

theorem le_now_of_stateAt {s : ReceiverThread} {moment : ℕ} {found : DeviceState}
    (h : s.stateAt moment = some found) : moment ≤ s.now := by
  obtain ⟨hlt, -⟩ := List.getElem?_eq_some_iff.mp h
  rw [List.length_append, List.length_singleton] at hlt
  exact Nat.lt_succ_iff.mp hlt

/-- The current state is the one of the current moment. -/
theorem stateAt_now (s : ReceiverThread) : s.stateAt s.now = some s.state := by
  rw [stateAt, now, List.getElem?_append_right le_rfl, Nat.sub_self]
  rfl

/-! ## What every run records -/

/-- Frames are worked off in the order of their arrival, each once, and every frame in work
or written was taken by an iteration that found `op` at its state check. -/
structure Recorded (s : ReceiverThread) : Prop where
  inOrder : (s.writes.map (·.arrival) ++ (s.phase.pending ++ s.socket)).Sublist s.arrived
  passedInOp : ∀ checked ∈ s.phase.passedCheck, s.stateAt checked = some .op
  writesChecked : ∀ w ∈ s.writes,
    s.stateAt w.checked = some .op ∧ w.checked ≤ w.moment ∧ w.moment ≤ s.now

theorem recorded_start (statusStore : DeviceStatusStore)
    (streamMap : HashMap UInt16 StreamConfig) (store : StreamStore) :
    (start statusStore streamMap store).Recorded where
  inOrder := List.Sublist.refl []
  passedInOp := fun _ hchecked => by cases hchecked
  writesChecked := fun _ hw => by cases hw

/-- Steps that leave the history alone keep what it says of the writes. -/
theorem Recorded.writesChecked_of_unrecorded {s t : ReceiverThread} (h : s.Recorded)
    (hsame : Unrecorded s t) : ∀ w ∈ t.writes,
    t.stateAt w.checked = some .op ∧ w.checked ≤ w.moment ∧ w.moment ≤ t.now := by
  intro w hw
  rw [hsame.writes] at hw
  rw [hsame.stateAt, hsame.now]
  exact h.writesChecked w hw

theorem recorded_step (s : ReceiverThread) (event : ReceiverEvent) (t : ReceiverThread)
    (h : s.Recorded) (hstep : s.step blake3 event = some t) : t.Recorded := by
  rcases threadStep_cases blake3 hstep with ⟨state, timestamp, -, rfl⟩ | ⟨frame, -, rfl⟩ |
    ⟨hsame, hback, hsuffix⟩ | ⟨hsame, hop, hphase, hreceiving, hsocket⟩ |
    ⟨hsame, hpassed, hpending⟩ | ⟨checked, arrival, stream, payload, write, hphase, -, rfl⟩
  -- a state update
  · refine ⟨h.inOrder, ?_, ?_⟩
    · intro checked hchecked
      exact stateAt_updateState (h.passedInOp checked hchecked)
    · intro w hw
      obtain ⟨hop, hle, hnow⟩ := h.writesChecked w hw
      refine ⟨stateAt_updateState hop, hle, ?_⟩
      rw [now, List.length_append]
      exact Nat.le_add_right_of_le hnow
  -- an arrival goes to the end of both lists
  · refine ⟨?_, h.passedInOp, h.writesChecked⟩
    have happend := h.inOrder.append (List.Sublist.refl [Arrival.mk frame s.now])
    simpa only [List.append_assoc] using happend
  -- back to the top: at most the frame in work is dropped
  · refine ⟨?_, ?_, h.writesChecked_of_unrecorded hsame⟩
    · rw [hsame.writes, hsame.arrived]
      exact ((List.Sublist.refl _).append hsuffix.sublist).trans h.inOrder
    · intro checked hchecked
      rw [hback] at hchecked
      cases hchecked
  -- the state check
  · refine ⟨?_, ?_, h.writesChecked_of_unrecorded hsame⟩
    · have horder := h.inOrder
      rw [hphase] at horder
      rw [hsame.writes, hsame.arrived, hreceiving, hsocket]
      exact horder
    · intro checked hchecked
      rw [hreceiving] at hchecked
      cases hchecked
      rw [hsame.stateAt, stateAt_now, hop]
  -- the frame in work proceeds
  · refine ⟨?_, ?_, h.writesChecked_of_unrecorded hsame⟩
    · rw [hsame.writes, hsame.arrived, hpending]
      exact h.inOrder
    · intro checked hchecked
      rw [hpassed] at hchecked
      rw [hsame.stateAt]
      exact h.passedInOp checked hchecked
  -- the frame in work is written
  · have hchecked : s.stateAt checked = some .op := by
      apply h.passedInOp
      rw [hphase]
      rfl
    refine ⟨?_, ?_, ?_⟩
    · have horder := h.inOrder
      rw [hphase] at horder
      simp only [List.map_append, List.append_assoc]
      exact horder
    · intro checked' hnone
      cases hnone
    · intro w hw
      rcases List.mem_append.mp hw with hold | hnew
      · exact h.writesChecked w hold
      · rw [List.mem_singleton.mp hnew]
        exact ⟨hchecked, le_now_of_stateAt hchecked, Nat.le_refl _⟩

theorem recorded_of_run {statusStore : DeviceStatusStore}
    {streamMap : HashMap UInt16 StreamConfig} {store : StreamStore} {events : List ReceiverEvent}
    {t : ReceiverThread}
    (hrun : execute (step blake3) (start statusStore streamMap store) events = some t) :
    t.Recorded :=
  execute_invariant (recorded_step blake3) (recorded_start statusStore streamMap store) hrun

/-! ## The device state at the moment of a write -/

/-- Condition on a step: while the receiver thread is past its state check, the device is
updated to `op` only. -/
def KeepsOpBehindCheck (s : ReceiverThread) : ReceiverEvent → Prop
  | .updateState state _ => s.phase.passedCheck.isSome → state = .op
  | _ => True

instance (s : ReceiverThread) (event : ReceiverEvent) :
    Decidable (s.KeepsOpBehindCheck event) :=
  match event with
  | .updateState state _ =>
    inferInstanceAs (Decidable (s.phase.passedCheck.isSome → state = .op))
  | .arrive _ | .check | .receiverError | .next | .authenticate | .write =>
    inferInstanceAs (Decidable True)

/-- Past its state check the thread finds the device in `op`, and every write did. -/
structure WritesInOp (s : ReceiverThread) : Prop where
  passed : s.phase.passedCheck.isSome → s.state = .op
  written : ∀ w ∈ s.writes, s.stateAt w.moment = some .op

theorem writesInOp_step (s : ReceiverThread) (event : ReceiverEvent) (t : ReceiverThread)
    (h : s.WritesInOp) (hguard : s.KeepsOpBehindCheck event)
    (hstep : s.step blake3 event = some t) : t.WritesInOp := by
  have hkept (hsame : Unrecorded s t) : ∀ w ∈ t.writes, t.stateAt w.moment = some .op := by
    intro w hw
    rw [hsame.writes] at hw
    rw [hsame.stateAt]
    exact h.written w hw
  rcases threadStep_cases blake3 hstep with ⟨state, timestamp, rfl, rfl⟩ | ⟨frame, -, rfl⟩ |
    ⟨hsame, hback, -⟩ | ⟨hsame, hop, -, -, -⟩ | ⟨hsame, hpassed, -⟩ |
    ⟨checked, arrival, stream, payload, write, hphase, -, rfl⟩
  -- a state update, guarded
  · refine ⟨?_, fun w hw => stateAt_updateState (h.written w hw)⟩
    intro hpassed
    exact (DeviceStatusStore.state_updateState _ _ _).trans (hguard hpassed)
  · exact ⟨h.passed, h.written⟩
  -- back to the top, where nothing has been checked
  · refine ⟨?_, hkept hsame⟩
    intro hpassed
    rw [hback] at hpassed
    cases hpassed
  -- the state check itself
  · exact ⟨fun _ => hsame.state.trans hop, hkept hsame⟩
  · refine ⟨?_, hkept hsame⟩
    intro hsome
    rw [hsame.state]
    exact h.passed (hpassed ▸ hsome)
  -- the write happens now, behind the check
  · refine ⟨fun hpassed => absurd hpassed Bool.false_ne_true, ?_⟩
    intro w hw
    rcases List.mem_append.mp hw with hold | hnew
    · exact h.written w hold
    · rw [List.mem_singleton.mp hnew]
      have hop : s.state = .op := by
        apply h.passed
        rw [hphase]
        rfl
      exact (stateAt_now s).trans (congrArg some hop)

/-- **No input outside `op`**: in a run in which no task takes the device out of `op` while
the receiver thread is past its state check, inputs are written in `op` only. -/
theorem inputs_written_in_op {statusStore : DeviceStatusStore}
    {streamMap : HashMap UInt16 StreamConfig} {store : StreamStore} {events : List ReceiverEvent}
    {t : ReceiverThread}
    (hguard : EveryStep (step blake3) KeepsOpBehindCheck (start statusStore streamMap store)
      events)
    (hrun : execute (step blake3) (start statusStore streamMap store) events = some t) :
    ∀ w ∈ t.writes, t.stateAt w.moment = some .op := by
  have hstart : (start statusStore streamMap store).WritesInOp :=
    ⟨fun hpassed => absurd hpassed Bool.false_ne_true, List.forall_mem_nil _⟩
  exact (execute_invariant_of_guarded (writesInOp_step blake3) hstart hguard hrun).written

/-! ## Frames that arrive in `safeOp` -/

/-- **Frames wait for `op`**: frames are written in the order of their arrival, each at most
once, and one that arrived in `safeOp`, before the state check of the iteration that writes
it, is written only after the device has moved on to `op`, which that check has seen. -/
theorem safeOp_frames_wait_for_op {statusStore : DeviceStatusStore}
    {streamMap : HashMap UInt16 StreamConfig} {store : StreamStore} {events : List ReceiverEvent}
    {t : ReceiverThread}
    (hrun : execute (step blake3) (start statusStore streamMap store) events = some t) :
    (t.writes.map (·.arrival)).Sublist t.arrived ∧
      ∀ w ∈ t.writes, t.stateAt w.arrival.moment = some .safeOp →
        w.arrival.moment ≤ w.checked →
        w.arrival.moment < w.checked ∧ w.checked ≤ w.moment ∧
          t.stateAt w.checked = some .op := by
  have hrecorded := recorded_of_run blake3 hrun
  refine ⟨(List.sublist_append_left _ _).trans hrecorded.inOrder, ?_⟩
  intro w hw hsafe hle
  obtain ⟨hop, hchecked, -⟩ := hrecorded.writesChecked w hw
  refine ⟨?_, hchecked, hop⟩
  -- one moment has one state
  apply lt_of_le_of_ne hle
  intro hsame
  rw [hsame, hop] at hsafe
  cases hsafe

/-! ## Iterations without interruption -/

/-- An iteration that nothing interrupts handles its frame as `receiveL2Frame` does. -/
theorem execute_iteration {s : ReceiverThread} {checked : ℕ} {arrival : Arrival}
    {socket : List Arrival} (hphase : s.phase = .receiving checked)
    (hsocket : s.socket = arrival :: socket) :
    ∃ events t, events <+: [.next, .authenticate, .write] ∧
      execute (step blake3) s events = some t ∧ t.phase = .checking ∧ t.socket = socket ∧
      t.past = s.past ∧ t.state = s.state ∧
      t.store = (receiveL2Frame blake3 s.streamMap s.store arrival.frame).2 ∧
      t.writes = s.writes ++
        ((receiveL2Frame blake3 s.streamMap s.store arrival.frame).1.written.map
          (fun write => WriteRecord.mk write arrival checked s.now)).toList := by
  obtain ⟨statusStore, streamMap, store, _, _, past, arrived, writes⟩ := s
  cases hphase
  cases hsocket
  unfold receiveL2Frame
  cases hparse : parseL2Frame arrival.frame with
  | error code =>
    -- one step, whether the frame is reported or ignored
    refine ⟨[.next], _, ⟨_, rfl⟩, rfl, ?_⟩
    simp only [accept, hparse]
    cases code <;> simp [refuse, ReceiveOutcome.written, state]
  | ok parsed =>
    cases hlookup : streamMap.lookup parsed.header.streamId with
    | none =>
      refine ⟨[.next], _, ⟨_, rfl⟩, rfl, ?_⟩
      simp [accept, hparse, hlookup, refuse, ReceiveOutcome.written, state]
    | some stream =>
      -- the thread as it holds the frame, with the store the validation leaves
      let held (store : StreamStore) : ReceiverThread :=
        ⟨statusStore, streamMap, store, socket, .authenticating checked arrival parsed stream,
          past, arrived, writes⟩
      have hnext : step blake3 ⟨statusStore, streamMap, store, arrival :: socket,
          .receiving checked, past, arrived, writes⟩ .next = some (held store) := by
        simp only [step, accept, hparse, hlookup, held]
      rcases hvalid : store.validateStreamTag blake3 parsed.header parsed.payload
        parsed.sequenceNumber parsed.authTag with ⟨result, next⟩
      rcases result with code | accepted
      -- the store no longer has the stream
      · have hauth : step blake3 (held store) .authenticate = some ((held next).refuse code) := by
          simp only [step, held, hvalid]
        refine ⟨[.next, .authenticate], (held next).refuse code, ⟨_, rfl⟩, ?_, ?_⟩
        · exact execute_pair hnext hauth
        · simp [held, refuse, ReceiveOutcome.written, state, hlookup, hvalid]
      · cases accepted with
        | false =>
          have hauth : step blake3 (held store) .authenticate =
              some ((held next).refuse .errAuthFailed) := by
            simp only [step, held, hvalid]
          refine ⟨[.next, .authenticate], (held next).refuse .errAuthFailed, ⟨_, rfl⟩, ?_, ?_⟩
          · exact execute_pair hnext hauth
          · simp [held, refuse, ReceiveOutcome.written, state, hlookup, hvalid]
        | true =>
          by_cases hstatus : parsed.header.status = StatusCode.noError.toU8
          -- only now does the process image come in
          · have hauth : step blake3 (held store) .authenticate =
                some
                  { held next with phase := .writing checked arrival stream parsed.payload } := by
              simp [step, held, hvalid, hstatus]
            cases hwrite : handleInputPacket stream parsed.payload with
            | error code =>
              refine ⟨[.next, .authenticate, .write], (held next).refuse code, ⟨_, rfl⟩, ?_, ?_⟩
              · apply execute_cons_eq_some.mpr
                refine ⟨_, hnext, execute_pair hauth ?_⟩
                simp only [step, held, hwrite, refuse]
              · simp [held, refuse, ReceiveOutcome.written, state, hlookup, hvalid, hstatus, hwrite]
            | ok write =>
              refine ⟨[.next, .authenticate, .write], { held next with
                phase := .checking
                writes := writes ++ [⟨write, arrival, checked, past.length⟩] }, ⟨_, rfl⟩, ?_, ?_⟩
              · apply execute_cons_eq_some.mpr
                refine ⟨_, hnext, execute_pair hauth ?_⟩
                simp only [step, held, hwrite, now]
              · simp [held, ReceiveOutcome.written, state, now, hlookup, hvalid, hstatus, hwrite]
          · have hauth : step blake3 (held store) .authenticate =
                some ((held next).refuse .errFrameWithErrorStatus) := by
              simp [step, held, hvalid, hstatus]
            refine ⟨[.next, .authenticate], (held next).refuse .errFrameWithErrorStatus,
              ⟨_, rfl⟩, ?_, ?_⟩
            · exact execute_pair hnext hauth
            · simp [held, refuse, ReceiveOutcome.written, state, hlookup, hvalid, hstatus]

/-- The condition cannot be dropped: once another task has taken the device out of `op` while
the thread waits for a frame, any frame the device would deliver is written there. -/
theorem update_behind_check_reaches_actuators {s : ReceiverThread} {checked : ℕ}
    (hphase : s.phase = .receiving checked) (hsocket : s.socket = []) {state : DeviceState}
    (timestamp : UInt64) {frame : Frame} {write : InputWrite}
    (hdeliver : (receiveL2Frame blake3 s.streamMap s.store frame).1 = .delivered (.ok write)) :
    ∃ events t, execute (step blake3) s (.updateState state timestamp :: .arrive frame :: events)
        = some t ∧ ∃ w ∈ t.writes, w.write = write ∧ t.stateAt w.moment = some state := by
  obtain ⟨t, ht⟩ : ∃ t, t = { s with
    statusStore := s.statusStore.updateState state timestamp
    past := s.past ++ [s.state]
    socket := [⟨frame, s.now + 1⟩]
    arrived := s.arrived ++ [Arrival.mk frame (s.now + 1)] } := ⟨_, rfl⟩
  have hprefix :
      execute (step blake3) s [.updateState state timestamp, .arrive frame] = some t := by
    simp [execute_cons, step, ht, hsocket, now]
  obtain ⟨events, u, -, hrun, -, -, hpast, hstate, -, hwrites⟩ :=
    @execute_iteration blake3 t checked ⟨frame, s.now + 1⟩ [] (by rw [ht]; exact hphase)
      (by rw [ht])
  refine ⟨events, u, ?_, ⟨write, ⟨frame, s.now + 1⟩, checked, t.now⟩, ?_, rfl, ?_⟩
  · exact execute_append_eq_some.mpr ⟨t, hprefix, hrun⟩
  · rw [hwrites]
    apply List.mem_append_right
    have hsame : (receiveL2Frame blake3 t.streamMap t.store frame).1 = .delivered (.ok write) := by
      rw [ht]
      exact hdeliver
    rw [hsame]
    exact List.mem_singleton_self _
  -- the last update is the one behind the thread's back
  · have htstate : t.state = state := by
      rw [ht]
      exact DeviceStatusStore.state_updateState _ _ _
    have hnow : t.now = u.now := congrArg List.length hpast.symm
    show u.stateAt t.now = some state
    rw [hnow, stateAt_now, hstate, htstate]

/-! ## Runs of one actuator -/

/-- An input stream of one byte. -/
def actuatorStream : StreamConfig :=
  { streamId := 5
    destinationMac := [2, 0, 0, 0, 0, 1]
    vlanIdPcp := 0
    cycleTimeNano := 1000000
    direction := Direction.input.toI32
    streamContent := some ⟨0, 0, 8⟩ }

/-- An authentic frame of the stream. -/
def actuatorFrame (seq : UInt64) : Frame :=
  buildL2Frame ⟨2, 0, 0, 0, 0, 9⟩ ⟨2, 0, 0, 0, 0, 1⟩ 0 (.new 5 0 0) [7]
    ⟨seq, tagOf checksumHash zeroSecret (signedL2Bytes (.new 5 0 0) [7] seq)⟩

/-- The receiver thread of a device in the given state. -/
def actuatorThread (state : DeviceState) : ReceiverThread :=
  start ((DeviceStatusStore.new 0).updateState state 0) (receiverStreamMap [actuatorStream])
    ((StreamStore.new zeroSecret).withEntry 5 ⟨actuatorStream, 0⟩)

/-- The device goes to `safeOp` between two iterations. -/
def changeBetweenIterations : List ReceiverEvent :=
  [.check, .arrive (actuatorFrame 1), .next, .authenticate, .write, .updateState .safeOp 1,
    .arrive (actuatorFrame 2), .check]

/-- The device goes to `safeOp` while the thread waits for a frame. -/
def changeBehindCheck : List ReceiverEvent :=
  [.check, .updateState .safeOp 1, .arrive (actuatorFrame 1), .next, .authenticate, .write]

/-- A frame arrives while the thread sleeps in `safeOp`. -/
def arrivalInSafeOp : List ReceiverEvent :=
  [.check, .arrive (actuatorFrame 1), .check, .updateState .op 1, .check, .next, .authenticate,
    .write]

theorem inputs_written_in_op_between_iterations :
    ∃ t, execute (step checksumHash) (actuatorThread .op) changeBetweenIterations = some t ∧
      t.writes.length = 1 ∧ ∀ w ∈ t.writes, t.stateAt w.moment = some .op := by
  have hcount : (execute (step checksumHash) (actuatorThread .op) changeBetweenIterations).map
      (fun t => t.writes.length) = some 1 := by decide +kernel
  obtain ⟨t, hrun, hlength⟩ := Option.map_eq_some_iff.mp hcount
  exact ⟨t, hrun, hlength, inputs_written_in_op checksumHash (by decide +kernel) hrun⟩

/-- The frame that reaches the waiting thread in `safeOp` is written. -/
theorem inputs_written_in_safeOp :
    (execute (step checksumHash) (actuatorThread .op) changeBehindCheck).map
        (fun t => (t.state, t.writes.map (fun w => (w.write, t.stateAt w.moment)))) =
      some (.safeOp, [(⟨[7], ⟨0, 0, 8⟩⟩, some .safeOp)]) := by
  decide +kernel

theorem safeOp_frames_wait_for_op_once :
    ∃ t, execute (step checksumHash) (actuatorThread .safeOp) arrivalInSafeOp = some t ∧
      t.writes.length = 1 ∧ (t.writes.map (·.arrival)).Sublist t.arrived ∧
      ∀ w ∈ t.writes, t.stateAt w.arrival.moment = some .safeOp →
        w.arrival.moment ≤ w.checked →
        w.arrival.moment < w.checked ∧ w.checked ≤ w.moment ∧
          t.stateAt w.checked = some .op := by
  have hcount : (execute (step checksumHash) (actuatorThread .safeOp) arrivalInSafeOp).map
      (fun t => t.writes.length) = some 1 := by decide +kernel
  obtain ⟨t, hrun, hlength⟩ := Option.map_eq_some_iff.mp hcount
  exact ⟨t, hrun, hlength, safeOp_frames_wait_for_op checksumHash hrun⟩

/-- The frame that arrived in `safeOp` is written after all. -/
theorem safeOp_frame_written_in_op :
    (execute (step checksumHash) (actuatorThread .safeOp) arrivalInSafeOp).map
        (fun t => (t.state, t.writes.map (fun w => (w.write, t.stateAt w.arrival.moment)))) =
      some (.op, [(⟨[7], ⟨0, 0, 8⟩⟩, some .safeOp)]) := by
  decide +kernel

end ReceiverThread

end TsnFieldbus
