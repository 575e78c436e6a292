import TsnFieldbus.Foundations.CallRun
import TsnFieldbus.Slave.SlaveApi
import TsnFieldbus.Slave.StatusUpdates

/-!
# Status Log

What `GetDeviceStatusLog` answers from the ring buffer of `device_status.rs`, and what the
updates write into it.

- `status_log_pages`: after any interleaving of updates and heartbeats the log holds the newest
  entries, and its pages put together are the log.
- `logs_changes_iff`: the entries of a run record changes exactly if no report repeats the value
  before it.
- `logEntries_repeated`: repeated reports of one code drive everything else out of the log.
-/

namespace TsnFieldbus

open Foundations

/-! ## Reading the log -/

/-- `get_log`: the total as `u32` and the window. -/
def DeviceStatusStore.getLog (store : DeviceStatusStore) (offset limit : ℕ) :
    UInt32 × List LogEntryDeviceStatus :=
  (.ofNat store.logEntries.length, (store.logEntries.drop offset).take limit)

/-- `GetLogRequest`. -/
structure GetLogRequest where
  offset : UInt32
  limit : UInt32

/-- `GetLogResponse`. -/
structure GetLogResponse where
  totalEntries : UInt32
  logEntries : List LogEntryDeviceStatus

/-- `get_device_status_log`; a page has at most 30 entries. -/
def SlaveApiService.getDeviceStatusLog (service : SlaveApiService) (tokens : String → Bool)
    (request : Request GetLogRequest) : Except Status GetLogResponse :=
  match validateToken tokens request with
  | .error status => .error status
  | .ok () =>
    let limit := (min request.message.limit 30).toNat
    let offset := request.message.offset.toNat
    let answer := service.statusStore.getLog offset limit
    .ok { totalEntries := answer.1, logEntries := answer.2 }

theorem toNat_min_30 (limit : UInt32) : (min limit 30).toNat = min limit.toNat 30 := by
  change (if limit ≤ 30 then limit else 30).toNat = _
  split
  · rename_i hle
    exact (min_eq_left (UInt32.le_iff_toNat_le.mp hle)).symm
  · rename_i hle
    exact (min_eq_right (le_of_not_ge (fun h => hle (UInt32.le_iff_toNat_le.mpr h)))).symm

/-- The total fits the field it is sent in. -/
theorem toNat_total (store : DeviceStatusStore) :
    (UInt32.ofNat store.logEntries.length).toNat = store.logEntries.length := by
  have hbound := store.logBounded
  exact UInt32.toNat_ofNat_of_lt' (hbound.trans_lt (by decide))

/-- With a valid token the answer is the window of the log. -/
theorem getDeviceStatusLog_eq {service : SlaveApiService} {tokens : String → Bool}
    {request : Request GetLogRequest} (htoken : validateToken tokens request = .ok ()) :
    service.getDeviceStatusLog tokens request =
      .ok
        { totalEntries := .ofNat service.statusStore.logEntries.length
          logEntries := (service.statusStore.logEntries.drop request.message.offset.toNat).take
            (min request.message.limit.toNat 30) } := by
  rw [SlaveApiService.getDeviceStatusLog, htoken]
  simp only [DeviceStatusStore.getLog, toNat_min_30]

/-! ## Pages -/

/-- The first `count` windows of one width are the front of the list. -/
theorem flatMap_pages {α : Type*} (entries : List α) (width count : ℕ) :
    (List.range count).flatMap (fun k => (entries.drop (k * width)).take width) =
      entries.take (count * width) := by
  induction count with
  | zero => simp
  | succ count ih =>
    rw [List.range_succ, List.flatMap_append, ih, List.flatMap_singleton, Nat.succ_mul,
      List.take_add]

/-- The pages of one width that a client asks for one after the other. -/
def pageRequest (token : String) (width : UInt32) (k : ℕ) : Request GetLogRequest :=
  { token := some token, message := { offset := .ofNat (k * width.toNat), limit := width } }

/-- The entries of an answer, none for a failed request. -/
def answeredEntries (answer : Except Status GetLogResponse) : List LogEntryDeviceStatus :=
  match answer with
  | .ok response => response.logEntries
  | .error _ => []

theorem validateToken_of_known {T : Type} {tokens : String → Bool} {token : String}
    (h : tokens token = true) (message : T) :
    validateToken tokens ⟨some token, message⟩ = .ok () :=
  if_pos h

/-- Enough pages of at most 30 entries put together are the whole log. -/
theorem flatMap_pageRequest {service : SlaveApiService} {tokens : String → Bool}
    {token : String} (htoken : tokens token = true) {width : UInt32} {count : ℕ}
    (hwidth : width.toNat ≤ 30) (hfits : count * width.toNat < 2 ^ 32)
    (hcovers : service.statusStore.logEntries.length ≤ count * width.toNat) :
    (List.range count).flatMap (fun k =>
        answeredEntries (service.getDeviceStatusLog tokens (pageRequest token width k))) =
      service.statusStore.logEntries := by
  have hpage : ∀ k ∈ List.range count,
      answeredEntries (service.getDeviceStatusLog tokens (pageRequest token width k)) =
        (service.statusStore.logEntries.drop (k * width.toNat)).take width.toNat := by
    intro k hk
    have hoffset : k * width.toNat < 2 ^ 32 :=
      (Nat.mul_le_mul_right _ (Nat.le_of_lt (List.mem_range.mp hk))).trans_lt hfits
    rw [pageRequest, getDeviceStatusLog_eq (validateToken_of_known htoken _)]
    simp only [answeredEntries]
    rw [UInt32.toNat_ofNat_of_lt' hoffset, min_eq_left hwidth]
  rw [List.flatMap_congr hpage, flatMap_pages, List.take_of_length_le hcovers]

/-- **The log is the newest entries, page by page.** After any interleaving of updates and
heartbeats the log holds the last entries appended, at most `LOG_CAPACITY` of them and newest
first. Every request with a valid token is answered with its window and the total, and the pages
of one width put together are the log. -/
theorem status_log_pages {ι : Type*} [DecidableEq ι] {timestamp : UInt64}
    {events : List (UpdateEvent ι)} {s : UpdateRun ι}
    (hrun : execute UpdateRun.step (.start timestamp) events = some s)
    {service : SlaveApiService} (hservice : service.statusStore = s.store)
    {tokens : String → Bool} {token : String} (htoken : tokens token = true) :
    s.store.logEntries = s.appended.reverse.take logCapacity ∧
    s.store.logEntries.length = min s.appended.length logCapacity ∧
    (∀ offset limit, ∃ response,
      service.getDeviceStatusLog tokens ⟨some token, ⟨offset, limit⟩⟩ = .ok response ∧
      response.totalEntries.toNat = s.store.logEntries.length ∧
      response.logEntries =
        (s.store.logEntries.drop offset.toNat).take (min limit.toNat 30)) ∧
    ∀ (width : UInt32) (count : ℕ), width.toNat ≤ 30 → count * width.toNat < 2 ^ 32 →
      s.store.logEntries.length ≤ count * width.toNat →
      (List.range count).flatMap (fun k =>
          answeredEntries (service.getDeviceStatusLog tokens (pageRequest token width k))) =
        s.store.logEntries := by
  -- the log is written under the lock, so it keeps the order of the updates
  have hserial : UpdateRun.Serial timestamp s :=
    execute_invariant UpdateRun.serial_step (UpdateRun.serial_start timestamp) hrun
  refine ⟨hserial.ring, ?_, ?_, ?_⟩
  · rw [hserial.ring, List.length_take, List.length_reverse, min_comm]
  · intro offset limit
    refine ⟨_, getDeviceStatusLog_eq (validateToken_of_known htoken _), ?_, ?_⟩
    · rw [hservice]
      exact toNat_total s.store
    · rw [hservice]
  · intro width count hwidth hfits hcovers
    rw [← hservice] at hcovers ⊢
    exact flatMap_pageRequest htoken hwidth hfits hcovers

/-- Two callers and a heartbeat; two pages of two entries hold the three entries. -/
theorem status_log_pages_overlapping :
    ∃ s, execute UpdateRun.step (.start 0) UpdateRun.overlappingCalls = some s ∧
      s.store.logEntries.length = 3 ∧
      (List.range 2).flatMap (fun k => answeredEntries
          (SlaveApiService.getDeviceStatusLog ⟨.new, s.store, .new (.replicate 32 0)⟩
            (fun token => token = "operator") (pageRequest "operator" 2 k))) =
        s.store.logEntries := by
  obtain ⟨s, hrun, hlen⟩ : ∃ s,
      execute UpdateRun.step (.start 0) UpdateRun.overlappingCalls = some s ∧
        s.store.logEntries.length = 3 := ⟨_, rfl, rfl⟩
  have hpages := (@status_log_pages Bool _ 0 _ s hrun ⟨.new, s.store, .new (.replicate 32 0)⟩ rfl
    (fun token => token = "operator") "operator" (decide_eq_true rfl)).2.2.2
  exact ⟨s, hrun, hlen, hpages 2 2 (by decide) (by decide) (by rw [hlen]; decide)⟩

/-! ## What the entries record -/

/-- The field that the entry's reason names differs from its value before the update. -/
def LogEntryDeviceStatus.RecordsChange (entry : LogEntryDeviceStatus) (before : DeviceStatus) :
    Prop :=
  match entry.logReason with
  | .statusCodeChange => before.statusCode ≠ entry.deviceStatus.statusCode
  | .stateChange => before.state ≠ entry.deviceStatus.state
  | .syncStatusChange => before.syncStatus ≠ entry.deviceStatus.syncStatus
  | .heartbeat | .missedCycle | .temperatureChange => True

namespace StatusUpdate

/-- The status code that a call reports, and likewise the state and the sync status. -/
def reportedCode : StatusUpdate → Option StatusCode
  | .statusCode newCode => some newCode
  | _ => none

def reportedState : StatusUpdate → Option DeviceState
  | .state newState => some newState
  | _ => none

def reportedSync : StatusUpdate → Option SyncStatus
  | .syncStatus newSync => some newSync
  | _ => none

/-- A field that is written where it differs has the new value. -/
theorem field_ite_ne {α : Type*} [DecidableEq α] (field : DeviceStatus → α)
    {current : DeviceStatus} (changed : DeviceStatus) {newValue : α}
    (h : field changed = newValue) :
    field (if field current ≠ newValue then changed else current) = newValue := by
  split
  · exact h
  · rename_i hsame
    exact not_not.mp hsame

theorem statusCode_snapshot (call : StatusUpdate) (current : DeviceStatus) (timestamp : UInt64) :
    (call.snapshot current timestamp).statusCode = call.reportedCode.getD current.statusCode := by
  cases call with
  | statusCode newCode =>
    exact field_ite_ne _ _ rfl
  | receiveCycleMetrics | sendCycleMetrics => rfl
  | state | syncStatus | missedCycles | minCycleTime | maxCycleTime | temperature =>
    simp only [snapshot]
    split <;> rfl

theorem state_snapshot (call : StatusUpdate) (current : DeviceStatus) (timestamp : UInt64) :
    (call.snapshot current timestamp).state = call.reportedState.getD current.state := by
  cases call with
  | state newState =>
    exact field_ite_ne _ _ rfl
  | receiveCycleMetrics | sendCycleMetrics => rfl
  | statusCode | syncStatus | missedCycles | minCycleTime | maxCycleTime | temperature =>
    simp only [snapshot]
    split <;> rfl

theorem syncStatus_snapshot (call : StatusUpdate) (current : DeviceStatus) (timestamp : UInt64) :
    (call.snapshot current timestamp).syncStatus = call.reportedSync.getD current.syncStatus := by
  cases call with
  | syncStatus newSync =>
    exact field_ite_ne _ _ rfl
  | receiveCycleMetrics | sendCycleMetrics => rfl
  | statusCode | state | missedCycles | minCycleTime | maxCycleTime | temperature =>
    simp only [snapshot]
    split <;> rfl

end StatusUpdate

namespace DeviceStatusStore

/-- The entry that a call appends to the log. -/
def appendedBy (store : DeviceStatusStore) (call : StatusUpdate × UInt64) :
    Option LogEntryDeviceStatus :=
  call.1.reason.map (fun reason => ⟨reason, (store.update call.1 call.2).current⟩)

theorem logEntries_update (store : DeviceStatusStore) (call : StatusUpdate × UInt64) :
    (store.update call.1 call.2).logEntries =
      ((store.appendedBy call).toList ++ store.logEntries).take logCapacity := by
  rw [appendedBy, current_update, update_eq]
  cases call.1.reason with
  | none => exact (List.take_of_length_le store.logBounded).symm
  | some reason => exact logEntries_appendLog { store with current := _ } reason _

/-- The entry of a call records a change exactly if the call reports a new value. -/
theorem recordsChange_iff (store : DeviceStatusStore) (call : StatusUpdate × UInt64) :
    (∀ entry ∈ store.appendedBy call, entry.RecordsChange store.current) ↔
      (∀ code ∈ call.1.reportedCode, store.current.statusCode ≠ code) ∧
      (∀ state ∈ call.1.reportedState, store.current.state ≠ state) ∧
      ∀ sync ∈ call.1.reportedSync, store.current.syncStatus ≠ sync := by
  obtain ⟨call, timestamp⟩ := call
  have hcode := call.statusCode_snapshot store.current timestamp
  have hstate := call.state_snapshot store.current timestamp
  have hsync := call.syncStatus_snapshot store.current timestamp
  rw [appendedBy, current_update]
  generalize call.snapshot store.current timestamp = current at *
  cases call with
  -- an entry of these three records a change exactly if the value differs
  | statusCode newCode =>
    change current.statusCode = newCode at hcode
    simp [StatusUpdate.reason, LogEntryDeviceStatus.RecordsChange, StatusUpdate.reportedCode,
      StatusUpdate.reportedState, StatusUpdate.reportedSync, hcode]
  | state newState =>
    change current.state = newState at hstate
    simp [StatusUpdate.reason, LogEntryDeviceStatus.RecordsChange, StatusUpdate.reportedCode,
      StatusUpdate.reportedState, StatusUpdate.reportedSync, hstate]
  | syncStatus newSync =>
    change current.syncStatus = newSync at hsync
    simp [StatusUpdate.reason, LogEntryDeviceStatus.RecordsChange, StatusUpdate.reportedCode,
      StatusUpdate.reportedState, StatusUpdate.reportedSync, hsync]
  -- a missed cycle promises no change, whether it leaves an entry or not
  | missedCycles count =>
    by_cases hcount : count = 0 <;>
      simp [StatusUpdate.reason, LogEntryDeviceStatus.RecordsChange, StatusUpdate.reportedCode,
        StatusUpdate.reportedState, StatusUpdate.reportedSync, hcount]
  -- the others leave no entry, or one that promises no change
  | minCycleTime | maxCycleTime | receiveCycleMetrics | sendCycleMetrics | temperature =>
    simp [StatusUpdate.reason, LogEntryDeviceStatus.RecordsChange, StatusUpdate.reportedCode,
      StatusUpdate.reportedState, StatusUpdate.reportedSync]

theorem updateAll_append (store : DeviceStatusStore)
    (earlier later : List (StatusUpdate × UInt64)) :
    store.updateAll (earlier ++ later) = (store.updateAll earlier).updateAll later :=
  List.foldl_append

/-- One call as a step of a run. -/
def step (store : DeviceStatusStore) (call : StatusUpdate × UInt64) : DeviceStatusStore :=
  store.update call.1 call.2

theorem updateAll_eq_foldl (store : DeviceStatusStore) (calls : List (StatusUpdate × UInt64)) :
    store.updateAll calls = calls.foldl step store := rfl

/-- **The log records changes exactly if no report repeats the value before it.** In a run of
calls every entry about status code, state or sync status records a change of its field exactly
if no status code, state or sync status is reported twice in a row, counting the store's own. -/
theorem logs_changes_iff (store : DeviceStatusStore) (calls : List (StatusUpdate × UInt64)) :
    (∀ earlier call later, calls = earlier ++ call :: later →
      ∀ entry ∈ (store.updateAll earlier).appendedBy call,
        entry.RecordsChange (store.updateAll earlier).current) ↔
    List.IsChain (· ≠ ·)
      (store.current.statusCode :: calls.filterMap (·.1.reportedCode)) ∧
    List.IsChain (· ≠ ·) (store.current.state :: calls.filterMap (·.1.reportedState)) ∧
    List.IsChain (· ≠ ·) (store.current.syncStatus :: calls.filterMap (·.1.reportedSync)) := by
  -- each of the three fields holds what was reported for it last
  have hcode := @isChain_iff_everyCall _ _ _ step (·.current.statusCode) (·.1.reportedCode)
    (fun store call => by rw [step, current_update, StatusUpdate.statusCode_snapshot]) store calls
  have hstate := @isChain_iff_everyCall _ _ _ step (·.current.state) (·.1.reportedState)
    (fun store call => by rw [step, current_update, StatusUpdate.state_snapshot]) store calls
  have hsync := @isChain_iff_everyCall _ _ _ step (·.current.syncStatus) (·.1.reportedSync)
    (fun store call => by rw [step, current_update, StatusUpdate.syncStatus_snapshot]) store calls
  rw [hcode, hstate, hsync, everyCall_iff, everyCall_iff, everyCall_iff]
  simp only [updateAll_eq_foldl, recordsChange_iff]
  constructor
  · intro h
    exact ⟨fun earlier call later heq => (h earlier call later heq).1,
      fun earlier call later heq => (h earlier call later heq).2.1,
      fun earlier call later heq => (h earlier call later heq).2.2⟩
  · rintro ⟨hcodes, hstates, hsyncs⟩ earlier call later heq
    exact ⟨hcodes earlier call later heq, hstates earlier call later heq,
      hsyncs earlier call later heq⟩

/-! ## Repeated reports -/

/-- A report of the code that the store already has. -/
theorem step_repeated {store : DeviceStatusStore} {code : StatusCode}
    (h : store.current.statusCode = code) (timestamp : UInt64) :
    (store.step (.statusCode code, timestamp)).current = store.current ∧
      (store.step (.statusCode code, timestamp)).logEntries =
        (⟨.statusCodeChange, store.current⟩ :: store.logEntries).take logCapacity := by
  have hcurrent : (store.step (.statusCode code, timestamp)).current = store.current := by
    rw [step, current_update]
    exact if_neg (not_not.mpr h)
  refine ⟨hcurrent, ?_⟩
  have hlog := logEntries_update store (.statusCode code, timestamp)
  rw [appendedBy] at hlog
  rw [step, hlog]
  change ([LogEntryDeviceStatus.mk _ (store.step (.statusCode code, timestamp)).current] ++ _).take
    _ = _
  rw [hcurrent]
  rfl

/-- Reports of an unchanged code push the older entries towards the end of the log and, from
`LOG_CAPACITY` reports on, out of it. -/
theorem logEntries_repeated {store : DeviceStatusStore} {code : StatusCode}
    (h : store.current.statusCode = code) (timestamp : UInt64) (n : ℕ) :
    (store.updateAll (List.replicate n (.statusCode code, timestamp))).logEntries =
      (List.replicate n (LogEntryDeviceStatus.mk .statusCodeChange store.current) ++
        store.logEntries).take logCapacity := by
  induction n generalizing store with
  | zero => exact (List.take_of_length_le store.logBounded).symm
  | succ n ih =>
    obtain ⟨hcurrent, hlog⟩ := step_repeated h timestamp
    rw [List.replicate_succ]
    change ((store.step _).updateAll _).logEntries = _
    rw [ih (hcurrent ▸ h), hcurrent, hlog, List.take_append, List.take_take, List.replicate_succ',
      List.append_assoc, List.take_append, List.singleton_append]
    congr 2
    exact min_eq_left (Nat.sub_le _ _)

/-- A device enters Op, and then an unauthenticated frame arrives in every cycle. -/
def floodCalls : List (StatusUpdate × UInt64) :=
  [(.state .op, 1), (.statusCode .errAuthFailed, 2)] ++
    List.replicate 60 (.statusCode .errAuthFailed, 3)

/-- From the second frame on the entries record no change, and in the end the change of state is
lost from the log. -/
theorem not_logs_changes_flood :
    (¬ ∀ earlier call later, floodCalls = earlier ++ call :: later →
      ∀ entry ∈ ((new 0).updateAll earlier).appendedBy call,
        entry.RecordsChange ((new 0).updateAll earlier).current) ∧
    (∃ entry ∈ ((new 0).updateAll (floodCalls.take 2)).logEntries,
      entry.logReason = .stateChange) ∧
    ∀ entry ∈ ((new 0).updateAll floodCalls).logEntries, entry.logReason ≠ .stateChange := by
  refine ⟨?_, ?_, ?_⟩
  · intro h
    have hsecond := h [(.state .op, 1), (.statusCode .errAuthFailed, 2)]
      (.statusCode .errAuthFailed, 3) (List.replicate 59 (.statusCode .errAuthFailed, 3)) rfl
    exact hsecond _ rfl rfl
  · exact ⟨_, List.mem_cons_of_mem _ List.mem_cons_self, rfl⟩
  · intro entry hentry
    have hlog := @logEntries_repeated
      ((new 0).updateAll [(.state .op, 1), (.statusCode .errAuthFailed, 2)]) .errAuthFailed rfl 3 60
    rw [floodCalls, updateAll_append, hlog, List.take_append_of_le_length (by simp)] at hentry
    rw [List.eq_of_mem_replicate (List.mem_of_mem_take hentry)]
    intro heq
    cases heq

end DeviceStatusStore

end TsnFieldbus
