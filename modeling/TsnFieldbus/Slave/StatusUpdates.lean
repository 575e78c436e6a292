import TsnFieldbus.Foundations.TransitionSystem
import TsnFieldbus.Slave.DeviceStatus

/-!
# Concurrent Status Updates

The update methods of `DeviceStatusStore` step by step: each takes the write lock of the
snapshot, changes the snapshot, appends it to the log, sends it to the subscribers and only
then drops the guard. Any number of callers and the heartbeat task interleave.

- `UpdateRun.step`: one step of one party.
- `Serial`: the invariant, the store is ahead of the serial execution by the steps of the
  lock's holder only.
- `updates_are_serial`: what subscribers and log have seen when the lock is free.
-/

namespace TsnFieldbus

open Foundations

/-- How far the holder of the write lock is. -/
inductive WriterPhase where
  /-- Has the lock and has not changed the snapshot. -/
  | locked (call : StatusUpdate)
  /-- Before `append_log`. -/
  | changed (reason : LogReason)
  /-- Before `broadcaster.send`. -/
  | logged
  /-- Before the guard is dropped. -/
  | finished
deriving DecidableEq

/-- The store, the callers `ι` that wait for the lock, and its holder. Beside them the calls
in the order in which they took the lock, those that have changed the snapshot with their
times, and all entries ever appended to the log. -/
structure UpdateRun (ι : Type*) where
  store : DeviceStatusStore
  waiting : ι → Option StatusUpdate
  writer : Option (ι × WriterPhase)
  taken : List StatusUpdate
  history : List (StatusUpdate × UInt64)
  appended : List LogEntryDeviceStatus

/-- The next step of a caller, of the holder of the lock, or of the heartbeat task. -/
inductive UpdateEvent (ι : Type*) where
  | call (caller : ι) (update : StatusUpdate)
  | acquire (caller : ι)
  | change (timestamp : UInt64)
  | append
  | send
  | release
  /-- The heartbeat task appends a status that it has read before. -/
  | heartbeat (status : DeviceStatus)

namespace UpdateRun

variable {ι : Type*} [DecidableEq ι]

/-- A new store that nobody has called. -/
def start (timestamp : UInt64) : UpdateRun ι :=
  { store := .new timestamp
    waiting := fun _ => none
    writer := none
    taken := []
    history := []
    appended := [] }

/-- The effect of one step. -/
def step (s : UpdateRun ι) : UpdateEvent ι → Option (UpdateRun ι)
  | .call caller update =>
    if s.waiting caller ≠ none ∨ s.writer.map Prod.fst = some caller then none
    -- `increment_missed_cycles_by(0)` returns before it asks for the lock
    else if update = .missedCycles 0 then some s
    else some { s with waiting := Function.update s.waiting caller (some update) }
  | .acquire caller =>
    match s.waiting caller, s.writer with
    | some call, none =>
      some
        { s with
          waiting := Function.update s.waiting caller none
          writer := some (caller, .locked call)
          taken := s.taken ++ [call] }
    | _, _ => none
  | .change timestamp =>
    match s.writer with
    | some (caller, .locked call) =>
      some
        { s with
          store := { s.store with current := call.snapshot s.store.current timestamp }
          writer := some (caller, call.reason.elim .finished .changed)
          history := s.history ++ [(call, timestamp)] }
    | _ => none
  | .append =>
    match s.writer with
    | some (caller, .changed reason) =>
      some
        { s with
          store := s.store.appendLog reason s.store.current
          writer := some (caller, .logged)
          appended := s.appended ++ [⟨reason, s.store.current⟩] }
    | _ => none
  | .send =>
    match s.writer with
    | some (caller, .logged) =>
      some
        { s with
          store := { s.store with broadcasts := s.store.broadcasts ++ [s.store.current] }
          writer := some (caller, .finished) }
    | _ => none
  | .release =>
    match s.writer with
    | some (_, .finished) => some { s with writer := none }
    | _ => none
  | .heartbeat status =>
    some
      { s with
        store := s.store.appendLog .heartbeat status
        appended := s.appended ++ [⟨.heartbeat, status⟩] }

end UpdateRun

/-! ## The holder of the lock -/

/-- The snapshots among the appended entries that come from calls. -/
def callSnapshots (appended : List LogEntryDeviceStatus) : List DeviceStatus :=
  (appended.filter (·.logReason ≠ .heartbeat)).map (·.deviceStatus)

theorem callSnapshots_append (appended : List LogEntryDeviceStatus) {reason : LogReason}
    (h : reason ≠ .heartbeat) (status : DeviceStatus) :
    callSnapshots (appended ++ [⟨reason, status⟩]) = callSnapshots appended ++ [status] := by
  simp [callSnapshots, h]

theorem callSnapshots_append_heartbeat (appended : List LogEntryDeviceStatus)
    (status : DeviceStatus) :
    callSnapshots (appended ++ [⟨.heartbeat, status⟩]) = callSnapshots appended := by
  simp [callSnapshots]

variable {ι : Type*}

/-- The call that has the lock and has not changed the snapshot. -/
def unchangedCall : Option (ι × WriterPhase) → List StatusUpdate
  | some (_, .locked call) => [call]
  | _ => []

/-- The changed snapshot, while it is not in the log. -/
def unloggedSnapshot (current : DeviceStatus) : Option (ι × WriterPhase) → List DeviceStatus
  | some (_, .changed _) => [current]
  | _ => []

/-- The changed snapshot, while it is in the log but not sent. -/
def unsentSnapshot (current : DeviceStatus) : Option (ι × WriterPhase) → List DeviceStatus
  | some (_, .logged) => [current]
  | _ => []

/-- No call appends a heartbeat. -/
theorem reason_ne_heartbeat (call : StatusUpdate) : call.reason ≠ some .heartbeat := by
  cases call with
  | missedCycles count =>
    simp only [StatusUpdate.reason]
    split <;> simp
  | _ => simp [StatusUpdate.reason]

/-! ## The last broadcast -/

/-- The fields that subscribers are told about. -/
def DeviceStatus.Agrees (a b : DeviceStatus) : Prop :=
  a.statusCode = b.statusCode ∧ a.state = b.state ∧ a.syncStatus = b.syncStatus ∧
    a.missedCycles = b.missedCycles ∧ a.temperature = b.temperature

/-- A call that does not publish leaves these fields. -/
theorem agrees_snapshot_of_silent {call : StatusUpdate} (h : call.reason = none)
    (current : DeviceStatus) (timestamp : UInt64) :
    current.Agrees (call.snapshot current timestamp) := by
  cases call with
  | missedCycles count =>
    simp only [StatusUpdate.reason, ite_eq_left_iff, reduceCtorEq, imp_false, not_not] at h
    rw [StatusUpdate.snapshot, if_pos h]
    exact ⟨rfl, rfl, rfl, rfl, rfl⟩
  | minCycleTime newValue =>
    simp only [StatusUpdate.snapshot]
    split <;> exact ⟨rfl, rfl, rfl, rfl, rfl⟩
  | maxCycleTime newValue =>
    simp only [StatusUpdate.snapshot]
    split <;> exact ⟨rfl, rfl, rfl, rfl, rfl⟩
  | receiveCycleMetrics minNs maxNs averageNs => exact ⟨rfl, rfl, rfl, rfl, rfl⟩
  | sendCycleMetrics minNs maxNs averageNs => exact ⟨rfl, rfl, rfl, rfl, rfl⟩
  | statusCode code => cases h
  | state state => cases h
  | syncStatus sync => cases h
  | temperature value => cases h

/-- After calls in a row the last broadcast status agrees with the current one. -/
theorem getLast_broadcasts_agrees (timestamp : UInt64) (calls : List (StatusUpdate × UInt64)) :
    ∀ status ∈ ((DeviceStatusStore.new timestamp).updateAll calls).broadcasts.getLast?,
      status.Agrees ((DeviceStatusStore.new timestamp).updateAll calls).current := by
  induction calls using List.reverseRecOn with
  | nil =>
    intro status h
    cases h
  | append_singleton calls call ih =>
    intro status h
    rw [DeviceStatusStore.updateAll_append_singleton, DeviceStatusStore.broadcasts_update] at h
    rw [DeviceStatusStore.updateAll_append_singleton, DeviceStatusStore.current_update]
    cases hreason : call.1.reason with
    -- a silent update changes metrics only, and the broadcasts end as before
    | none =>
      rw [hreason, Option.elim_none, List.append_nil] at h
      obtain ⟨hcode, hstate, hsync, hmissed, htemperature⟩ := ih status h
      obtain ⟨hcode', hstate', hsync', hmissed', htemperature'⟩ :=
        agrees_snapshot_of_silent hreason
          ((DeviceStatusStore.new timestamp).updateAll calls).current call.2
      exact ⟨hcode.trans hcode', hstate.trans hstate', hsync.trans hsync', hmissed.trans hmissed',
        htemperature.trans htemperature'⟩
    -- an announced one broadcasts the new status
    | some reason =>
      rw [hreason, Option.elim_some, List.getLast?_concat, Option.mem_some_iff] at h
      subst h
      exact ⟨rfl, rfl, rfl, rfl, rfl⟩

namespace UpdateRun

/-- The store is where the calls put it one after another in the order of `history`, up to
what the holder of the lock has still to do. -/
structure Serial (timestamp : UInt64) (s : UpdateRun ι) : Prop where
  current : s.store.current = ((DeviceStatusStore.new timestamp).updateAll s.history).current
  broadcasts : ((DeviceStatusStore.new timestamp).updateAll s.history).broadcasts =
    s.store.broadcasts ++ unsentSnapshot s.store.current s.writer ++
      unloggedSnapshot s.store.current s.writer
  logged : callSnapshots s.appended =
    s.store.broadcasts ++ unsentSnapshot s.store.current s.writer
  taken : s.taken = s.history.map Prod.fst ++ unchangedCall s.writer
  ring : s.store.logEntries = s.appended.reverse.take logCapacity
  noHeartbeat : ∀ caller reason, s.writer = some (caller, .changed reason) → reason ≠ .heartbeat

theorem serial_start (timestamp : UInt64) : Serial timestamp (start timestamp : UpdateRun ι) :=
  ⟨rfl, rfl, rfl, rfl, rfl, fun _ _ h => by cases h⟩

/-- The invariant at a known phase of the lock. -/
theorem Serial.at_writer {timestamp : UInt64} {s : UpdateRun ι} (h : Serial timestamp s)
    {writer : Option (ι × WriterPhase)} (hwriter : s.writer = writer) :
    ((DeviceStatusStore.new timestamp).updateAll s.history).broadcasts =
        s.store.broadcasts ++ unsentSnapshot s.store.current writer ++
          unloggedSnapshot s.store.current writer ∧
      callSnapshots s.appended = s.store.broadcasts ++ unsentSnapshot s.store.current writer ∧
      s.taken = s.history.map Prod.fst ++ unchangedCall writer :=
  hwriter ▸ ⟨h.broadcasts, h.logged, h.taken⟩

/-- Appending to the ring. -/
theorem ring_append {store : DeviceStatusStore} {appended : List LogEntryDeviceStatus}
    (h : store.logEntries = appended.reverse.take logCapacity) (reason : LogReason)
    (status : DeviceStatus) :
    (store.appendLog reason status).logEntries =
      (appended ++ [LogEntryDeviceStatus.mk reason status]).reverse.take logCapacity := by
  rw [DeviceStatusStore.logEntries_appendLog, h, List.reverse_append]
  simp only [List.reverse_singleton, List.singleton_append, logCapacity, List.take_succ_cons,
    List.take_take]
  rfl

variable [DecidableEq ι]

/-- One step of one party keeps the store serial. -/
theorem serial_step {timestamp : UInt64} (s : UpdateRun ι) (event : UpdateEvent ι)
    (t : UpdateRun ι) (h : Serial timestamp s) (hstep : s.step event = some t) :
    Serial timestamp t := by
  cases event with
  | call caller update =>
    simp only [step] at hstep
    split at hstep
    · cases hstep
    · split at hstep
      · cases hstep
        exact h
      · cases hstep
        exact ⟨h.current, h.broadcasts, h.logged, h.taken, h.ring, h.noHeartbeat⟩
  | acquire caller =>
    simp only [step] at hstep
    split at hstep
    · rename_i call _ hwriter
      cases hstep
      obtain ⟨hbroadcasts, hlogged, htaken⟩ := h.at_writer hwriter
      refine ⟨h.current, hbroadcasts, hlogged, ?_, h.ring, fun _ _ heq => by cases heq⟩
      simp only [htaken, unchangedCall, List.append_nil]
    · cases hstep
  | change now =>
    simp only [step] at hstep
    split at hstep
    · rename_i caller call hwriter
      cases hstep
      obtain ⟨hbroadcasts, hlogged, htaken⟩ := h.at_writer hwriter
      simp only [unsentSnapshot, unloggedSnapshot, unchangedCall, List.append_nil]
        at hbroadcasts hlogged htaken
      have hcurrent := h.current
      refine ⟨?_, ?_, ?_, ?_, h.ring, ?_⟩
      · simp only [DeviceStatusStore.updateAll_append_singleton, DeviceStatusStore.current_update,
          hcurrent]
      -- a publishing call owes the log and the subscribers its snapshot
      · simp only [DeviceStatusStore.updateAll_append_singleton,
          DeviceStatusStore.broadcasts_update, hbroadcasts, ← hcurrent]
        cases call.reason <;> simp [unsentSnapshot, unloggedSnapshot]
      · cases call.reason <;> simpa [unsentSnapshot] using hlogged
      · cases call.reason <;> simp [unchangedCall, htaken]
      · intro caller' reason heq
        cases hreason : call.reason with
        | none => simp [hreason] at heq
        | some found =>
          simp only [hreason, Option.elim_some, Option.some.injEq, Prod.mk.injEq,
            WriterPhase.changed.injEq] at heq
          rintro rfl
          exact reason_ne_heartbeat call (heq.2 ▸ hreason)
    · cases hstep
  | append =>
    simp only [step] at hstep
    split at hstep
    · rename_i caller reason hwriter
      cases hstep
      obtain ⟨hbroadcasts, hlogged, htaken⟩ := h.at_writer hwriter
      refine ⟨h.current, ?_, ?_, htaken, ring_append h.ring reason s.store.current,
        fun _ _ heq => by cases heq⟩
      · simpa [unsentSnapshot, unloggedSnapshot, DeviceStatusStore.appendLog] using hbroadcasts
      · simp only [callSnapshots_append _ (h.noHeartbeat caller reason hwriter), hlogged,
          unsentSnapshot, List.append_nil]
        rfl
    · cases hstep
  | send =>
    simp only [step] at hstep
    split at hstep
    · rename_i caller hwriter
      cases hstep
      obtain ⟨hbroadcasts, hlogged, htaken⟩ := h.at_writer hwriter
      refine ⟨h.current, ?_, ?_, htaken, h.ring, fun _ _ heq => by cases heq⟩
      · simpa [unsentSnapshot, unloggedSnapshot] using hbroadcasts
      · simpa [unsentSnapshot] using hlogged
    · cases hstep
  | release =>
    simp only [step] at hstep
    split at hstep
    · rename_i caller hwriter
      cases hstep
      obtain ⟨hbroadcasts, hlogged, htaken⟩ := h.at_writer hwriter
      exact ⟨h.current, hbroadcasts, hlogged, htaken, h.ring, fun _ _ heq => by cases heq⟩
    · cases hstep
  | heartbeat status =>
    cases hstep
    refine ⟨h.current, h.broadcasts, ?_, h.taken, ring_append h.ring .heartbeat status,
      h.noHeartbeat⟩
    exact (callSnapshots_append_heartbeat _ _).trans h.logged

/-- **Updates are serial.** In every interleaving, whenever the lock is free, subscribers have been
sent exactly the snapshots that the calls have appended to the log, in the order in which the
calls took the lock, and the last of them agrees with the current status. The log holds the
newest entries. -/
theorem updates_are_serial {timestamp : UInt64} {events : List (UpdateEvent ι)} {s : UpdateRun ι}
    (hrun : execute step (start timestamp) events = some s) (hfree : s.writer = none) :
    s.store.broadcasts = callSnapshots s.appended ∧
      s.history.map Prod.fst = s.taken ∧
      s.store.broadcasts = ((DeviceStatusStore.new timestamp).updateAll s.history).broadcasts ∧
      s.store.current = ((DeviceStatusStore.new timestamp).updateAll s.history).current ∧
      (∀ status ∈ s.store.broadcasts.getLast?, status.Agrees s.store.current) ∧
      s.store.logEntries = s.appended.reverse.take logCapacity := by
  have h : Serial timestamp s := execute_invariant serial_step (serial_start timestamp) hrun
  obtain ⟨hbroadcasts, hlogged, htaken⟩ := h.at_writer hfree
  simp only [unsentSnapshot, unloggedSnapshot, unchangedCall, List.append_nil]
    at hbroadcasts hlogged htaken
  refine ⟨hlogged.symm, htaken.symm, hbroadcasts.symm, h.current, ?_, h.ring⟩
  rw [← hbroadcasts, h.current]
  exact getLast_broadcasts_agrees timestamp s.history

/-- Two callers that overlap, with a heartbeat between log and broadcast. -/
def overlappingCalls : List (UpdateEvent Bool) :=
  [.call true (.state .op), .call false (.missedCycles 2), .acquire false, .change 7, .append,
    .heartbeat (DeviceStatusStore.new 0).current, .send, .release, .acquire true, .change 8,
    .append, .send, .release]

theorem updates_are_serial_overlapping :
    ∃ s, execute step (start 0) overlappingCalls = some s ∧
      s.store.broadcasts = callSnapshots s.appended ∧
      s.taken = [.missedCycles 2, .state .op] ∧
      (∀ status ∈ s.store.broadcasts.getLast?, status.Agrees s.store.current) := by
  obtain ⟨s, hrun, hfree, htaken⟩ : ∃ s, execute step (start 0) overlappingCalls = some s ∧
      s.writer = none ∧ s.taken = [.missedCycles 2, .state .op] := ⟨_, rfl, rfl, rfl⟩
  obtain ⟨hbroadcasts, -, -, -, hlast, -⟩ := updates_are_serial hrun hfree
  exact ⟨s, hrun, hbroadcasts, htaken, hlast⟩

end UpdateRun

end TsnFieldbus
