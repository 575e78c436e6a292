import TsnFieldbus.Foundations.CallRun
import TsnFieldbus.Slave.StatusLog

/-!
# Status Snapshot over Time

What the snapshot of `DeviceStatusStore` says after a run of update calls: when it changed last,
and which cycle times were reported.

- `timestamp_tracks_changes_iff`: the timestamp is the time of the last change exactly if no
  call changes the status code, or counts missed cycles at a full counter, at a later time than
  the one in the snapshot.
- `cycle_time_extrema_iff`: the reported cycle times have the minimum and maximum of the snapshot
  exactly if zero is among them.
-/

namespace TsnFieldbus

open Foundations

/-! ## Time of the last change -/

/-- Equal in all fields but the timestamp. -/
def DeviceStatus.SameContents (a b : DeviceStatus) : Prop := { a with timestamp := b.timestamp } = b

instance (a b : DeviceStatus) : Decidable (a.SameContents b) :=
  inferInstanceAs (Decidable (_ = _))

theorem DeviceStatus.sameContents_iff (a b : DeviceStatus) : a.SameContents b ↔
    a.statusCode = b.statusCode ∧ a.state = b.state ∧ a.syncStatus = b.syncStatus ∧
      a.missedCycles = b.missedCycles ∧ a.minCycleTime = b.minCycleTime ∧
      a.maxCycleTime = b.maxCycleTime ∧ a.temperature = b.temperature ∧
      a.receiveCycleMinNs = b.receiveCycleMinNs ∧ a.receiveCycleMaxNs = b.receiveCycleMaxNs ∧
      a.receiveCycleAvgNs = b.receiveCycleAvgNs ∧ a.sendCycleMinNs = b.sendCycleMinNs ∧
      a.sendCycleMaxNs = b.sendCycleMaxNs ∧ a.sendCycleAvgNs = b.sendCycleAvgNs := by
  cases a
  cases b
  simp [DeviceStatus.SameContents]

namespace StatusUpdate

/-- Whether the call rewrites cycle metrics. -/
def rewritesMetrics : StatusUpdate → Bool
  | .receiveCycleMetrics .. | .sendCycleMetrics .. => true
  | .statusCode _ | .state _ | .syncStatus _ | .missedCycles _ | .minCycleTime _
  | .maxCycleTime _ | .temperature _ => false

/-- Whether the call counts as a change of the status: it rewrites metrics or changes another
field than the timestamp. -/
def Changes (call : StatusUpdate) (current : DeviceStatus) (timestamp : UInt64) : Prop :=
  call.rewritesMetrics = true ∨ ¬ (call.snapshot current timestamp).SameContents current

instance (call : StatusUpdate) (current : DeviceStatus) (timestamp : UInt64) :
    Decidable (call.Changes current timestamp) :=
  inferInstanceAs (Decidable (_ ∨ _))

/-- The call does not miss its time: it neither changes the status code without the snapshot
having its time already, nor takes a new time for missed cycles that a full counter drops. -/
def Timely (call : StatusUpdate) (current : DeviceStatus) (timestamp : UInt64) : Prop :=
  match call with
  | .statusCode newCode => current.statusCode = newCode ∨ current.timestamp = timestamp
  | .missedCycles count =>
    count = 0 ∨ current.missedCycles ≠ .ofNat (2 ^ 32 - 1) ∨ current.timestamp = timestamp
  | _ => True

/-- Adding to a counter changes it unless it is full. -/
theorem saturatingAddU32_eq_self_iff {x y : UInt32} (hy : y ≠ 0) :
    DeviceStatusStore.saturatingAddU32 x y = x ↔ x = .ofNat (2 ^ 32 - 1) := by
  have hpos : 0 < y.toNat := Nat.pos_of_ne_zero (fun h => hy (UInt32.toNat_inj.mp h))
  have hx := x.toNat_lt
  have hmax : (UInt32.ofNat (2 ^ 32 - 1)).toNat = 2 ^ 32 - 1 :=
    UInt32.toNat_ofNat_of_lt' (by decide)
  rw [← UInt32.toNat_inj, ← UInt32.toNat_inj, DeviceStatusStore.toNat_saturatingAddU32, hmax]
  omega

/-- A call moves the timestamp with its change exactly if it does not miss its time. -/
theorem timestamp_snapshot_iff (call : StatusUpdate) (current : DeviceStatus)
    (timestamp : UInt64) :
    (call.snapshot current timestamp).timestamp =
        (if call.Changes current timestamp then timestamp else current.timestamp) ↔
      call.Timely current timestamp := by
  simp only [Changes, DeviceStatus.sameContents_iff]
  -- each update writes when the value differs, so the field tells them apart
  cases call with
  | statusCode newCode =>
    by_cases h : current.statusCode = newCode
    · simp [snapshot, rewritesMetrics, Timely, h]
    · simp [snapshot, rewritesMetrics, Timely, h, Ne.symm h]
  | state newState =>
    by_cases h : current.state = newState
    · simp [snapshot, rewritesMetrics, Timely, h]
    · simp [snapshot, rewritesMetrics, Timely, h, Ne.symm h]
  | syncStatus newSync =>
    by_cases h : current.syncStatus = newSync
    · simp [snapshot, rewritesMetrics, Timely, h]
    · simp [snapshot, rewritesMetrics, Timely, h, Ne.symm h]
  | temperature newValue =>
    by_cases h : current.temperature = newValue
    · simp [snapshot, rewritesMetrics, Timely, h]
    · simp [snapshot, rewritesMetrics, Timely, h, Ne.symm h]
  | missedCycles count =>
    by_cases hcount : count = 0
    · simp [snapshot, rewritesMetrics, Timely, hcount]
    -- a counter at its limit stays there
    · simp only [snapshot, rewritesMetrics, Timely, if_neg hcount,
        saturatingAddU32_eq_self_iff hcount]
      generalize UInt32.ofNat (2 ^ 32 - 1) = full
      by_cases hfull : current.missedCycles = full
      · simp [hcount, hfull, eq_comm]
      · simp [hcount, hfull]
  -- a minimum is written only when it goes down, a maximum when it goes up
  | minCycleTime newValue =>
    by_cases h : current.minCycleTime > newValue
    · simp [snapshot, rewritesMetrics, Timely, h, UInt32.ne_of_lt h]
    · simp [snapshot, rewritesMetrics, Timely, h]
  | maxCycleTime newValue =>
    by_cases h : current.maxCycleTime < newValue
    · simp [snapshot, rewritesMetrics, Timely, h, (UInt32.ne_of_lt h).symm]
    · simp [snapshot, rewritesMetrics, Timely, h]
  -- the metrics are written every time
  | receiveCycleMetrics minNs maxNs averageNs => simp [snapshot, rewritesMetrics, Timely]
  | sendCycleMetrics minNs maxNs averageNs => simp [snapshot, rewritesMetrics, Timely]

end StatusUpdate

namespace DeviceStatusStore

/-- The time of the last change, given the one so far: a history variable of the run. -/
def nextChange (store : DeviceStatusStore) (lastChange : UInt64)
    (call : StatusUpdate × UInt64) : UInt64 :=
  if call.1.Changes store.current call.2 then call.2 else lastChange

/-- **The timestamp is the time of the last change exactly if every call is timely.** After every
prefix of a run on a new store the timestamp is the time of the last call that changed the
status, or of the store's creation, exactly if no call changes the status code, or adds missed
cycles to a full counter, at another time than the snapshot's. -/
theorem timestamp_tracks_changes_iff (created : UInt64) (calls : List (StatusUpdate × UInt64)) :
    (∀ earlier later, calls = earlier ++ later →
      ((new created).updateAll earlier).current.timestamp =
        historyAfter step nextChange (new created) created earlier) ↔
    EveryCall step (fun store call => call.1.Timely store.current call.2) (new created) calls := by
  have hrun := @observed_eq_iff_everyCall _ _ _ step nextChange (·.current.timestamp)
    (new created) calls
  have hstep (store : DeviceStatusStore) (call : StatusUpdate × UInt64) :
      (store.step call).current.timestamp = store.nextChange store.current.timestamp call ↔
        call.1.Timely store.current call.2 := by
    rw [step, current_update, nextChange]
    exact call.1.timestamp_snapshot_iff store.current call.2
  simp only [hstep] at hrun
  exact hrun

/-- A frame fails authentication two seconds after the device entered Op. -/
theorem not_timestamp_tracks_changes_authFailed :
    ¬ ∀ earlier later,
      [(StatusUpdate.state .op, 1000), (.statusCode .errAuthFailed, 3000)] = earlier ++ later →
      ((new 0).updateAll earlier).current.timestamp =
        historyAfter step nextChange (new 0) 0 earlier := by
  intro h
  have hlast := h _ [] (List.append_nil _).symm
  revert hlast
  decide

end DeviceStatusStore

/-! ## Reported cycle times -/

namespace StatusUpdate

/-- The value passed to `update_min_cycle_time`, and likewise to `update_max_cycle_time`. -/
def reportedMin : StatusUpdate → Option UInt32
  | .minCycleTime newValue => some newValue
  | _ => none

def reportedMax : StatusUpdate → Option UInt32
  | .maxCycleTime newValue => some newValue
  | _ => none

/-- The conditional assignments of `update_min_cycle_time` and `update_max_cycle_time`. -/
def keepSmaller (least newValue : UInt32) : UInt32 := if least > newValue then newValue else least

def keepLarger (greatest newValue : UInt32) : UInt32 :=
  if greatest < newValue then newValue else greatest

theorem minCycleTime_snapshot (call : StatusUpdate) (current : DeviceStatus)
    (timestamp : UInt64) :
    (call.snapshot current timestamp).minCycleTime =
      call.reportedMin.elim current.minCycleTime (keepSmaller current.minCycleTime) := by
  cases call with
  | receiveCycleMetrics | sendCycleMetrics => rfl
  | minCycleTime newValue =>
    simp only [snapshot, reportedMin, Option.elim_some, keepSmaller]
    split <;> rfl
  | statusCode | state | syncStatus | missedCycles | maxCycleTime | temperature =>
    simp only [snapshot]
    split <;> rfl

theorem maxCycleTime_snapshot (call : StatusUpdate) (current : DeviceStatus)
    (timestamp : UInt64) :
    (call.snapshot current timestamp).maxCycleTime =
      call.reportedMax.elim current.maxCycleTime (keepLarger current.maxCycleTime) := by
  cases call with
  | receiveCycleMetrics | sendCycleMetrics => rfl
  | maxCycleTime newValue =>
    simp only [snapshot, reportedMax, Option.elim_some, keepLarger]
    split <;> rfl
  | statusCode | state | syncStatus | missedCycles | minCycleTime | temperature =>
    simp only [snapshot]
    split <;> rfl

/-- Nothing is below the zero that the minimum starts from. -/
theorem foldl_keepSmaller_zero (values : List UInt32) : values.foldl keepSmaller 0 = 0 := by
  induction values with
  | nil => rfl
  | cons value values ih =>
    rw [List.foldl_cons, keepSmaller, if_neg UInt32.not_lt_zero]
    exact ih

theorem keepLarger_mem (greatest newValue : UInt32) :
    keepLarger greatest newValue = greatest ∨ keepLarger greatest newValue = newValue := by
  rw [keepLarger]
  split
  · exact .inr rfl
  · exact .inl rfl

theorem le_keepLarger (greatest newValue : UInt32) :
    greatest ≤ keepLarger greatest newValue ∧ newValue ≤ keepLarger greatest newValue := by
  rw [keepLarger]
  split
  · rename_i hlt
    exact ⟨UInt32.le_of_lt hlt, UInt32.le_refl _⟩
  · rename_i hnlt
    exact ⟨UInt32.le_refl _, UInt32.not_lt.mp hnlt⟩

/-- Keeping the larger of two values keeps the largest of all. -/
theorem foldl_keepLarger_spec (start : UInt32) (values : List UInt32) :
    values.foldl keepLarger start ∈ start :: values ∧
      ∀ value ∈ start :: values, value ≤ values.foldl keepLarger start := by
  induction values generalizing start with
  | nil =>
    refine ⟨List.mem_cons_self, ?_⟩
    intro value hvalue
    rw [List.mem_singleton.mp hvalue]
    exact UInt32.le_refl _
  | cons first values ih =>
    -- from the larger of the first two on
    obtain ⟨hmem, hle⟩ := ih (keepLarger start first)
    obtain ⟨hstart, hfirst⟩ := le_keepLarger start first
    rw [List.forall_mem_cons] at hle
    rw [List.foldl_cons, List.forall_mem_cons, List.forall_mem_cons]
    refine ⟨?_, UInt32.le_trans hstart hle.1, UInt32.le_trans hfirst hle.1, hle.2⟩
    rcases List.mem_cons.mp hmem with hkept | hrest
    · rw [hkept]
      rcases keepLarger_mem start first with h | h
      · exact List.mem_cons.mpr (.inl h)
      · exact List.mem_cons_of_mem _ (List.mem_cons.mpr (.inl h))
    · exact List.mem_cons_of_mem _ (List.mem_cons_of_mem _ hrest)

end StatusUpdate

namespace DeviceStatusStore

/-- The minimum starts at zero and stays there. -/
theorem minCycleTime_updateAll_new (created : UInt64) (calls : List (StatusUpdate × UInt64)) :
    ((new created).updateAll calls).current.minCycleTime = 0 := by
  have hrun := @observed_foldl _ _ _ step (·.current.minCycleTime) (·.1.reportedMin)
    StatusUpdate.keepSmaller
    (fun store call => by rw [step, current_update, StatusUpdate.minCycleTime_snapshot])
    (new created) calls
  exact hrun.trans (StatusUpdate.foldl_keepSmaller_zero _)

/-- The maximum counts from zero. -/
theorem maxCycleTime_updateAll_new (created : UInt64) (calls : List (StatusUpdate × UInt64)) :
    ((new created).updateAll calls).current.maxCycleTime =
      (calls.filterMap (·.1.reportedMax)).foldl StatusUpdate.keepLarger 0 :=
  @observed_foldl _ _ _ step (·.current.maxCycleTime) (·.1.reportedMax) StatusUpdate.keepLarger
    (fun store call => by rw [step, current_update, StatusUpdate.maxCycleTime_snapshot])
    (new created) calls

/-- The maximum of the snapshot is that of the reported values, if there are any. -/
theorem maxCycleTime_isGreatest {created : UInt64} {calls : List (StatusUpdate × UInt64)}
    (hne : calls.filterMap (·.1.reportedMax) ≠ []) :
    ((new created).updateAll calls).current.maxCycleTime ∈ calls.filterMap (·.1.reportedMax) ∧
      ∀ value ∈ calls.filterMap (·.1.reportedMax),
        value ≤ ((new created).updateAll calls).current.maxCycleTime := by
  rw [maxCycleTime_updateAll_new]
  generalize calls.filterMap (·.1.reportedMax) = values at hne ⊢
  obtain ⟨hmem, hle⟩ := StatusUpdate.foldl_keepLarger_spec 0 values
  rw [List.forall_mem_cons] at hle
  refine ⟨?_, hle.2⟩
  rcases List.mem_cons.mp hmem with hstart | hrest
  · -- a maximum of zero is one of the values, which are all zero
    obtain ⟨value, hvalue⟩ := List.exists_mem_of_ne_nil values hne
    have hvalueZero : value = 0 := UInt32.le_zero_iff.mp (hstart ▸ hle.2 value hvalue)
    rw [hstart, ← hvalueZero]
    exact hvalue
  · exact hrest

/-- **The extrema are those of the reported values exactly if zero was reported.** The values are
reported to a new store through both methods, in any order and with any other updates in between.
The maximum is right in any case; the minimum starts at zero and stays there. -/
theorem cycle_time_extrema_iff {created : UInt64} {calls : List (StatusUpdate × UInt64)}
    (hne : calls.filterMap (·.1.reportedMin) ≠ [])
    (hboth : (calls.filterMap (·.1.reportedMin)).Perm (calls.filterMap (·.1.reportedMax))) :
    let values := calls.filterMap (·.1.reportedMin)
    let current := ((new created).updateAll calls).current
    ((current.minCycleTime ∈ values ∧ ∀ value ∈ values, current.minCycleTime ≤ value) ∧
        (current.maxCycleTime ∈ values ∧ ∀ value ∈ values, value ≤ current.maxCycleTime) ↔
      0 ∈ values) ∧
    (current.maxCycleTime ∈ values ∧ ∀ value ∈ values, value ≤ current.maxCycleTime) := by
  have hreported : calls.filterMap (·.1.reportedMax) ≠ [] := by
    intro hnil
    rw [hnil] at hboth
    exact hne hboth.eq_nil
  obtain ⟨hmem, hle⟩ := @maxCycleTime_isGreatest created _ hreported
  -- the same values are reported to both, so the maximum is right
  have hmax : ((new created).updateAll calls).current.maxCycleTime ∈
        calls.filterMap (·.1.reportedMin) ∧
      ∀ value ∈ calls.filterMap (·.1.reportedMin),
        value ≤ ((new created).updateAll calls).current.maxCycleTime :=
    ⟨hboth.mem_iff.mpr hmem, fun value hvalue => hle value (hboth.mem_iff.mp hvalue)⟩
  dsimp only
  -- the minimum starts at zero and stays there
  rw [minCycleTime_updateAll_new]
  refine ⟨?_, hmax⟩
  constructor
  · intro h
    exact h.1.1
  · intro hzero
    exact ⟨⟨hzero, fun value _ => UInt32.zero_le⟩, hmax⟩

/-- A value of zero and one of a millisecond. -/
theorem cycle_time_extrema_iff_two :
    let current := ((new 0).updateAll [(.minCycleTime 0, 1), (.maxCycleTime 0, 1),
      (.minCycleTime 1000000, 2), (.maxCycleTime 1000000, 2)]).current
    current.minCycleTime ∈ [0, 1000000] ∧ ∀ value ∈ [0, 1000000], value ≤ current.maxCycleTime := by
  have hiff := @cycle_time_extrema_iff 0 [(.minCycleTime 0, 1), (.maxCycleTime 0, 1),
    (.minCycleTime 1000000, 2), (.maxCycleTime 1000000, 2)] (by decide) (.refl _)
  exact ⟨(hiff.1.mpr List.mem_cons_self).1.1, hiff.2.2⟩

/-- One cycle of a millisecond leaves the minimum at zero. -/
theorem not_cycle_time_extrema_one :
    let calls := [(StatusUpdate.minCycleTime 1000000, 1), (.maxCycleTime 1000000, 1)]
    calls.filterMap (·.1.reportedMin) = [1000000] ∧
      calls.filterMap (·.1.reportedMax) = [1000000] ∧
      ((new 0).updateAll calls).current.minCycleTime = 0 ∧
      ((new 0).updateAll calls).current.minCycleTime ∉ calls.filterMap (·.1.reportedMin) := by
  decide

end DeviceStatusStore

end TsnFieldbus
