import TsnFieldbus.Common.SlaveApiTypes

/-!
# Device Status Store

`device_status.rs`: the status snapshot, the bounded log and the broadcast of updates.
The snapshot's write lock is held through a whole update, so an update is a function on the
store; the timestamp it takes from the clock is an argument.

- `publish`: what the publishing updates have in common.
- `StatusUpdate`, `DeviceStatusStore.update`: the calls of the update methods.
-/

namespace TsnFieldbus

/-- `LOG_CAPACITY`. -/
abbrev logCapacity : ℕ := 60

/-- Status snapshot, log (newest entry first) and the updates broadcast so far. -/
structure DeviceStatusStore where
  current : DeviceStatus
  logEntries : List LogEntryDeviceStatus
  broadcasts : List DeviceStatus
  logBounded : logEntries.length ≤ logCapacity

namespace DeviceStatusStore

/-- `DeviceStatusStore::new`. -/
def new (timestamp : UInt64) : DeviceStatusStore :=
  { current :=
      { statusCode := .noError
        state := .init
        syncStatus := .syncing
        missedCycles := 0
        minCycleTime := 0
        maxCycleTime := 0
        temperature := 0
        timestamp := timestamp
        receiveCycleMinNs := 0
        receiveCycleMaxNs := 0
        receiveCycleAvgNs := 0
        sendCycleMinNs := 0
        sendCycleMaxNs := 0
        sendCycleAvgNs := 0 }
    logEntries := []
    broadcasts := []
    logBounded := by simp }

/-- `append_log`: a full ring drops its oldest entry. -/
def appendLog (store : DeviceStatusStore) (reason : LogReason) (status : DeviceStatus) :
    DeviceStatusStore :=
  let log :=
    if store.logEntries.length = logCapacity then store.logEntries.dropLast
    else store.logEntries
  { store with
    logEntries := { logReason := reason, deviceStatus := status } :: log
    logBounded := by
      have hbound := store.logBounded
      simp only [log, logCapacity, List.length_cons] at hbound ⊢
      split <;> simp <;> omega }

/-- `update_status_code`. -/
def updateStatusCode (store : DeviceStatusStore) (statusCode : StatusCode) :
    DeviceStatusStore :=
  let current :=
    if store.current.statusCode ≠ statusCode then
      { store.current with statusCode := statusCode }
    else store.current
  let store := { store with current := current }
  let store := store.appendLog .statusCodeChange current
  { store with broadcasts := store.broadcasts ++ [current] }

/-- `update_state`. -/
def updateState (store : DeviceStatusStore) (state : DeviceState) (timestamp : UInt64) :
    DeviceStatusStore :=
  let current :=
    if store.current.state ≠ state then
      { store.current with state := state, timestamp := timestamp }
    else store.current
  let store := { store with current := current }
  let store := store.appendLog .stateChange current
  { store with broadcasts := store.broadcasts ++ [current] }

/-- The ring keeps the newest entries. -/
theorem logEntries_appendLog (store : DeviceStatusStore) (reason : LogReason)
    (status : DeviceStatus) :
    (store.appendLog reason status).logEntries =
      (⟨reason, status⟩ :: store.logEntries).take logCapacity := by
  have hbound := store.logBounded
  simp only [appendLog]
  split
  · rename_i hfull
    rw [List.dropLast_eq_take, hfull]
    rfl
  · rename_i hroom
    rw [List.take_of_length_le]
    rw [List.length_cons]
    omega

/-- How every publishing update ends: the new snapshot goes into the log and to the
subscribers. -/
def publish (store : DeviceStatusStore) (reason : LogReason) (current : DeviceStatus) :
    DeviceStatusStore :=
  let store := { store with current := current }
  let store := store.appendLog reason current
  { store with broadcasts := store.broadcasts ++ [current] }

/-- `update_sync_status`. -/
def updateSyncStatus (store : DeviceStatusStore) (syncStatus : SyncStatus) (timestamp : UInt64) :
    DeviceStatusStore :=
  store.publish .syncStatusChange
    (if store.current.syncStatus ≠ syncStatus then
      { store.current with syncStatus := syncStatus, timestamp := timestamp }
    else store.current)

/-- `saturating_add` of `u32`. -/
def saturatingAddU32 (x y : UInt32) : UInt32 :=
  if x.toNat + y.toNat < 2 ^ 32 then x + y else .ofNat (2 ^ 32 - 1)

/-- `increment_missed_cycles_by`. -/
def incrementMissedCyclesBy (store : DeviceStatusStore) (count : UInt32) (timestamp : UInt64) :
    DeviceStatusStore :=
  if count = 0 then store
  else
    store.publish .missedCycle
      { store.current with
        missedCycles := saturatingAddU32 store.current.missedCycles count
        timestamp := timestamp }

/-- `update_min_cycle_time`. -/
def updateMinCycleTime (store : DeviceStatusStore) (newValue : UInt32) (timestamp : UInt64) :
    DeviceStatusStore :=
  if store.current.minCycleTime > newValue then
    { store with current :=
        { store.current with minCycleTime := newValue, timestamp := timestamp } }
  else store

/-- `update_max_cycle_time`. -/
def updateMaxCycleTime (store : DeviceStatusStore) (newValue : UInt32) (timestamp : UInt64) :
    DeviceStatusStore :=
  if store.current.maxCycleTime < newValue then
    { store with current :=
        { store.current with maxCycleTime := newValue, timestamp := timestamp } }
  else store

/-- `update_receive_cycle_metrics`. -/
def updateReceiveCycleMetrics (store : DeviceStatusStore) (minNs maxNs averageNs : UInt64)
    (timestamp : UInt64) : DeviceStatusStore :=
  { store with current :=
      { store.current with
        receiveCycleMinNs := minNs
        receiveCycleMaxNs := maxNs
        receiveCycleAvgNs := averageNs
        timestamp := timestamp } }

/-- `update_send_cycle_metrics`. -/
def updateSendCycleMetrics (store : DeviceStatusStore) (minNs maxNs averageNs : UInt64)
    (timestamp : UInt64) : DeviceStatusStore :=
  { store with current :=
      { store.current with
        sendCycleMinNs := minNs
        sendCycleMaxNs := maxNs
        sendCycleAvgNs := averageNs
        timestamp := timestamp } }

/-- `update_temperature`. -/
def updateTemperature (store : DeviceStatusStore) (newValue : Int32) (timestamp : UInt64) :
    DeviceStatusStore :=
  store.publish .temperatureChange
    (if store.current.temperature ≠ newValue then
      { store.current with temperature := newValue, timestamp := timestamp }
    else store.current)

/-- After an update the snapshot holds the given state. -/
@[simp] theorem state_updateState (store : DeviceStatusStore) (state : DeviceState)
    (timestamp : UInt64) : (store.updateState state timestamp).current.state = state := by
  by_cases h : store.current.state = state <;> simp [updateState, appendLog, h]

/-- Reporting a status code does not change the device state. -/
@[simp] theorem state_updateStatusCode (store : DeviceStatusStore) (statusCode : StatusCode) :
    (store.updateStatusCode statusCode).current.state = store.current.state := by
  by_cases h : store.current.statusCode = statusCode <;> simp [updateStatusCode, appendLog, h]

end DeviceStatusStore

/-! ## Calls of the update methods -/

/-- A call of an update method with its arguments. -/
inductive StatusUpdate where
  | statusCode (statusCode : StatusCode)
  | state (state : DeviceState)
  | syncStatus (syncStatus : SyncStatus)
  | missedCycles (count : UInt32)
  | minCycleTime (newValue : UInt32)
  | maxCycleTime (newValue : UInt32)
  | receiveCycleMetrics (minNs maxNs averageNs : UInt64)
  | sendCycleMetrics (minNs maxNs averageNs : UInt64)
  | temperature (newValue : Int32)
deriving DecidableEq, Repr

/-- The store after a call that reads the clock at `timestamp`. -/
def DeviceStatusStore.update (store : DeviceStatusStore) (call : StatusUpdate)
    (timestamp : UInt64) : DeviceStatusStore :=
  match call with
  | .statusCode statusCode => store.updateStatusCode statusCode
  | .state state => store.updateState state timestamp
  | .syncStatus syncStatus => store.updateSyncStatus syncStatus timestamp
  | .missedCycles count => store.incrementMissedCyclesBy count timestamp
  | .minCycleTime newValue => store.updateMinCycleTime newValue timestamp
  | .maxCycleTime newValue => store.updateMaxCycleTime newValue timestamp
  | .receiveCycleMetrics minNs maxNs averageNs =>
    store.updateReceiveCycleMetrics minNs maxNs averageNs timestamp
  | .sendCycleMetrics minNs maxNs averageNs =>
    store.updateSendCycleMetrics minNs maxNs averageNs timestamp
  | .temperature newValue => store.updateTemperature newValue timestamp

namespace StatusUpdate

/-- The snapshot after a call. -/
def snapshot (call : StatusUpdate) (current : DeviceStatus) (timestamp : UInt64) : DeviceStatus :=
  match call with
  | .statusCode newCode =>
    if current.statusCode ≠ newCode then { current with statusCode := newCode }
    else current
  | .state newState =>
    if current.state ≠ newState then { current with state := newState, timestamp := timestamp }
    else current
  | .syncStatus newSync =>
    if current.syncStatus ≠ newSync then
      { current with syncStatus := newSync, timestamp := timestamp }
    else current
  | .missedCycles count =>
    if count = 0 then current
    else
      { current with
        missedCycles := DeviceStatusStore.saturatingAddU32 current.missedCycles count
        timestamp := timestamp }
  | .minCycleTime newValue =>
    if current.minCycleTime > newValue then
      { current with minCycleTime := newValue, timestamp := timestamp }
    else current
  | .maxCycleTime newValue =>
    if current.maxCycleTime < newValue then
      { current with maxCycleTime := newValue, timestamp := timestamp }
    else current
  | .receiveCycleMetrics minNs maxNs averageNs =>
    { current with
      receiveCycleMinNs := minNs
      receiveCycleMaxNs := maxNs
      receiveCycleAvgNs := averageNs
      timestamp := timestamp }
  | .sendCycleMetrics minNs maxNs averageNs =>
    { current with
      sendCycleMinNs := minNs
      sendCycleMaxNs := maxNs
      sendCycleAvgNs := averageNs
      timestamp := timestamp }
  | .temperature newValue =>
    if current.temperature ≠ newValue then
      { current with temperature := newValue, timestamp := timestamp }
    else current

/-- The log reason of the calls that publish their snapshot. -/
def reason : StatusUpdate → Option LogReason
  | .statusCode _ => some .statusCodeChange
  | .state _ => some .stateChange
  | .syncStatus _ => some .syncStatusChange
  | .missedCycles count => if count = 0 then none else some .missedCycle
  | .temperature _ => some .temperatureChange
  | .minCycleTime _ | .maxCycleTime _ | .receiveCycleMetrics .. | .sendCycleMetrics .. => none

/-- The missed cycles that a call adds. -/
def missed : StatusUpdate → ℕ
  | .missedCycles count => count.toNat
  | .statusCode _ | .state _ | .syncStatus _ | .minCycleTime _ | .maxCycleTime _
  | .receiveCycleMetrics .. | .sendCycleMetrics .. | .temperature _ => 0

end StatusUpdate

namespace DeviceStatusStore

/-- Every call replaces the snapshot; a publishing one also logs and broadcasts it. -/
theorem update_eq (store : DeviceStatusStore) (call : StatusUpdate) (timestamp : UInt64) :
    store.update call timestamp =
      call.reason.elim { store with current := call.snapshot store.current timestamp }
        (fun reason => store.publish reason (call.snapshot store.current timestamp)) := by
  cases call with
  | statusCode statusCode => rfl
  | state state => rfl
  | syncStatus syncStatus => rfl
  | missedCycles count =>
    by_cases h : count = 0 <;>
      simp [update, incrementMissedCyclesBy, StatusUpdate.reason, StatusUpdate.snapshot, h]
  | minCycleTime newValue =>
    by_cases h : store.current.minCycleTime > newValue <;>
      simp [update, updateMinCycleTime, StatusUpdate.reason, StatusUpdate.snapshot, h]
  | maxCycleTime newValue =>
    by_cases h : store.current.maxCycleTime < newValue <;>
      simp [update, updateMaxCycleTime, StatusUpdate.reason, StatusUpdate.snapshot, h]
  | receiveCycleMetrics minNs maxNs averageNs => rfl
  | sendCycleMetrics minNs maxNs averageNs => rfl
  | temperature newValue => rfl

@[simp] theorem current_update (store : DeviceStatusStore) (call : StatusUpdate)
    (timestamp : UInt64) :
    (store.update call timestamp).current = call.snapshot store.current timestamp := by
  rw [update_eq]
  cases call.reason <;> rfl

@[simp] theorem broadcasts_update (store : DeviceStatusStore) (call : StatusUpdate)
    (timestamp : UInt64) :
    (store.update call timestamp).broadcasts = store.broadcasts ++
      call.reason.elim [] (fun _ => [call.snapshot store.current timestamp]) := by
  rw [update_eq]
  cases call.reason with
  | none => exact (List.append_nil _).symm
  | some reason => rfl

/-- Several calls in a row, each with its time. -/
def updateAll (store : DeviceStatusStore) (calls : List (StatusUpdate × UInt64)) :
    DeviceStatusStore :=
  calls.foldl (fun store call => store.update call.1 call.2) store

theorem updateAll_append_singleton (store : DeviceStatusStore)
    (calls : List (StatusUpdate × UInt64)) (call : StatusUpdate × UInt64) :
    store.updateAll (calls ++ [call]) = (store.updateAll calls).update call.1 call.2 := by
  rw [updateAll, List.foldl_append]
  rfl

theorem toNat_saturatingAddU32 (x y : UInt32) :
    (saturatingAddU32 x y).toNat = min (x.toNat + y.toNat) (2 ^ 32 - 1) := by
  unfold saturatingAddU32
  split
  · rw [UInt32.toNat_add]
    omega
  · rw [UInt32.toNat_ofNat_of_lt' (by decide)]
    omega

/-- One call adds its missed cycles, up to the largest count. -/
theorem toNat_missedCycles_update (store : DeviceStatusStore) (call : StatusUpdate)
    (timestamp : UInt64) :
    (store.update call timestamp).current.missedCycles.toNat =
      min (store.current.missedCycles.toNat + call.missed) (2 ^ 32 - 1) := by
  have hlt := store.current.missedCycles.toNat_lt
  have hsame : store.current.missedCycles.toNat =
      min (store.current.missedCycles.toNat + 0) (2 ^ 32 - 1) := by omega
  rw [current_update]
  cases call with
  -- the only update that adds, with saturation
  | missedCycles count =>
    simp only [StatusUpdate.snapshot, StatusUpdate.missed]
    split
    · rename_i h
      rw [h]
      exact hsame
    · exact toNat_saturatingAddU32 _ _
  | receiveCycleMetrics minNs maxNs averageNs => exact hsame
  | sendCycleMetrics minNs maxNs averageNs => exact hsame
  | statusCode | state | syncStatus | minCycleTime | maxCycleTime | temperature =>
    simp only [StatusUpdate.snapshot, StatusUpdate.missed]
    split <;> exact hsame

/-- Calls in a row add up their missed cycles. -/
theorem toNat_missedCycles_updateAll (store : DeviceStatusStore)
    (calls : List (StatusUpdate × UInt64)) :
    (store.updateAll calls).current.missedCycles.toNat =
      min (store.current.missedCycles.toNat + (calls.map (·.1.missed)).sum) (2 ^ 32 - 1) := by
  induction calls generalizing store with
  | nil =>
    have hlt := store.current.missedCycles.toNat_lt
    rw [List.map_nil, List.sum_nil]
    change store.current.missedCycles.toNat = _
    omega
  | cons call rest ih =>
    change ((store.update call.1 call.2).updateAll rest).current.missedCycles.toNat = _
    rw [ih, toNat_missedCycles_update, List.map_cons, List.sum_cons]
    omega

end DeviceStatusStore

end TsnFieldbus
