import TsnFieldbus.Foundations.CheckedAccess
import TsnFieldbus.Foundations.LoopRun
import TsnFieldbus.Slave.StatusLog

/-!
# Temperature Polling

The temperature task of `spawn_background_tasks`: it reads the sensor once before its loop and
then at every tick, and publishes a reading that differs from the last published one by the
threshold. Other tasks update the store between the ticks.

- `Follows`: the invariant, before and after the first publication.
- `tracksReadings_iff`: the published temperature tracks the readings exactly if no difference
  leaves `i16` and the readings up to the first publication are near the temperature in the
  store.
-/

namespace TsnFieldbus

open Foundations

/-! ## The task -/

/-- `TEMPERATURE_THRESHOLD`. -/
abbrev temperatureThreshold : ℕ := 5

/-- Subtraction of `i16` values, which panics where it overflows. -/
def checkedSubI16 (x y : Int16) : Option Int16 :=
  panicsIf (x.toInt - y.toInt < -2 ^ 15 ∨ 2 ^ 15 ≤ x.toInt - y.toInt) (x - y)

/-- The store and the task's variable `last_published`. -/
structure TemperatureTask where
  store : DeviceStatusStore
  lastPublished : Int16

/-- A tick with the answer of `read_temperature`, or an update by another task. -/
inductive TemperatureEvent where
  | poll (reading : Except StatusCode Int16) (timestamp : UInt64)
  | update (call : StatusUpdate) (timestamp : UInt64)

namespace TemperatureTask

/-- The start of the task: the first reading counts as published. -/
def start (store : DeviceStatusStore) (initial : Except StatusCode Int16) : TemperatureTask :=
  { store := store
    lastPublished :=
      match initial with
      | .ok temperature => temperature
      | .error _ => 0 }

/-- A pass of the task's loop, or the update in between. -/
def pass (task : TemperatureTask) : TemperatureEvent → PassEnd TemperatureTask
  | .poll reading timestamp =>
    if task.store.current.state = .error ∨ task.store.current.state = .shutdown then .exits task
    else
      match reading with
      | .error _ => .continues task
      | .ok temperature =>
        match checkedSubI16 temperature task.lastPublished with
        | none => .panics
        | some difference =>
          if difference.toInt.natAbs ≥ temperatureThreshold then
            .continues
              { store := task.store.updateTemperature temperature.toInt32 timestamp
                lastPublished := temperature }
          else .continues task
  | .update call timestamp => .continues { task with store := task.store.update call timestamp }

end TemperatureTask

/-! ## Other tasks -/

/-- The temperature that a call publishes. -/
def StatusUpdate.reportedTemperature : StatusUpdate → Option Int32
  | .temperature newValue => some newValue
  | _ => none

theorem StatusUpdate.temperature_snapshot (call : StatusUpdate) (current : DeviceStatus)
    (timestamp : UInt64) :
    (call.snapshot current timestamp).temperature =
      call.reportedTemperature.getD current.temperature := by
  cases call with
  | temperature newValue =>
    exact field_ite_ne _ _ rfl
  | receiveCycleMetrics | sendCycleMetrics => rfl
  | statusCode | state | syncStatus | missedCycles | minCycleTime | maxCycleTime =>
    simp only [snapshot]
    split <;> rfl

/-- The device runs: it is neither in Error nor in Shutdown. -/
def DeviceState.Runs (state : DeviceState) : Prop := state ≠ .error ∧ state ≠ .shutdown

instance (state : DeviceState) : Decidable state.Runs := inferInstanceAs (Decidable (_ ∧ _))

/-- What the other tasks do: they leave the temperature alone and the device running. -/
structure StatusUpdate.Foreign (call : StatusUpdate) : Prop where
  temperature : call.reportedTemperature = none
  state : ∀ state ∈ call.reportedState, state.Runs

/-- The other tasks' calls in a run. -/
def ForeignUpdates (events : List TemperatureEvent) : Prop :=
  ∀ call timestamp, .update call timestamp ∈ events → StatusUpdate.Foreign call

theorem StatusUpdate.Foreign.update {call : StatusUpdate} (h : call.Foreign)
    {store : DeviceStatusStore} (hruns : store.current.state.Runs) (timestamp : UInt64) :
    (store.update call timestamp).current.temperature = store.current.temperature ∧
      (store.update call timestamp).current.state.Runs := by
  rw [DeviceStatusStore.current_update, temperature_snapshot, h.temperature, state_snapshot]
  refine ⟨rfl, ?_⟩
  cases hstate : call.reportedState with
  | none => exact hruns
  | some state => exact h.state state hstate

/-- Publishing a temperature. -/
theorem updateTemperature_spec (store : DeviceStatusStore) (newValue : Int32)
    (timestamp : UInt64) :
    (store.updateTemperature newValue timestamp).current.temperature = newValue ∧
      (store.updateTemperature newValue timestamp).current.state = store.current.state := by
  have hcurrent : (store.updateTemperature newValue timestamp).current =
      (StatusUpdate.temperature newValue).snapshot store.current timestamp :=
    DeviceStatusStore.current_update store (.temperature newValue) timestamp
  rw [hcurrent, StatusUpdate.temperature_snapshot, StatusUpdate.state_snapshot]
  exact ⟨rfl, rfl⟩

/-! ## One poll -/

/-- Closer than the threshold. -/
def Near (x y : ℤ) : Prop := (x - y).natAbs < temperatureThreshold

instance (x y : ℤ) : Decidable (Near x y) := inferInstanceAs (Decidable (_ < _))

/-- The difference is an `i16`. -/
def FitsI16 (x y : Int16) : Prop := -2 ^ 15 ≤ x.toInt - y.toInt ∧ x.toInt - y.toInt < 2 ^ 15

instance (x y : Int16) : Decidable (FitsI16 x y) := inferInstanceAs (Decidable (_ ∧ _))

theorem checkedSubI16_of_fits {x y : Int16} (h : FitsI16 x y) :
    checkedSubI16 x y = some (x - y) ∧ (x - y).toInt = x.toInt - y.toInt := by
  obtain ⟨hlow, hhigh⟩ := h
  constructor
  · rw [checkedSubI16, panicsIf_neg]
    omega
  · rw [Int16.toInt_sub]
    exact Int.bmod_eq_of_le (by omega) (by omega)

theorem checkedSubI16_of_not_fits {x y : Int16} (h : ¬ FitsI16 x y) :
    checkedSubI16 x y = none := by
  rw [checkedSubI16, panicsIf, if_pos]
  unfold FitsI16 at h
  omega

/-- Readings near each other do not overflow. -/
theorem Near.fits {x y : Int16} (h : Near x.toInt y.toInt) : FitsI16 x y := by
  unfold Near temperatureThreshold at h
  unfold FitsI16
  omega

namespace TemperatureTask

section

variable {task : TemperatureTask} (hruns : task.store.current.state.Runs) (timestamp : UInt64)

include hruns

theorem pass_poll_error (code : StatusCode) :
    task.pass (.poll (.error code) timestamp) = .continues task := by
  simp only [pass, if_neg (not_or.mpr hruns)]

theorem pass_poll_of_near {temperature : Int16}
    (hnear : Near temperature.toInt task.lastPublished.toInt) :
    task.pass (.poll (.ok temperature) timestamp) = .continues task := by
  obtain ⟨hsub, hdifference⟩ := checkedSubI16_of_fits hnear.fits
  simp only [pass, if_neg (not_or.mpr hruns), hsub, hdifference]
  exact if_neg (not_le.mpr hnear)

theorem pass_poll_of_far {temperature : Int16}
    (hfar : ¬ Near temperature.toInt task.lastPublished.toInt)
    (hfits : FitsI16 temperature task.lastPublished) :
    task.pass (.poll (.ok temperature) timestamp) =
      .continues ⟨task.store.updateTemperature temperature.toInt32 timestamp, temperature⟩ := by
  obtain ⟨hsub, hdifference⟩ := checkedSubI16_of_fits hfits
  simp only [pass, if_neg (not_or.mpr hruns), hsub, hdifference]
  exact if_pos (not_lt.mp hfar)

theorem pass_poll_of_overflow {temperature : Int16}
    (hoverflow : ¬ FitsI16 temperature task.lastPublished) :
    task.pass (.poll (.ok temperature) timestamp) = .panics := by
  simp only [pass, if_neg (not_or.mpr hruns), checkedSubI16_of_not_fits hoverflow]

end

end TemperatureTask

/-! ## Readings -/

/-- The reading of a successful poll. -/
def TemperatureEvent.reading : TemperatureEvent → Option Int16
  | .poll (.ok temperature) _ => some temperature
  | .poll (.error _) _ | .update _ _ => none

/-- The successful readings of a run. -/
def readings (events : List TemperatureEvent) : List Int16 :=
  events.filterMap TemperatureEvent.reading

/-- The reading that a task compares with: the first one, then each that is far from the one
before. -/
def reference (initial : Int16) (readings : List Int16) : Int16 :=
  readings.foldl
    (fun reference reading =>
      if Near reading.toInt reference.toInt then reference else reading) initial

theorem reference_concat (initial : Int16) (earlier : List Int16) (reading : Int16) :
    reference initial (earlier ++ [reading]) =
      if Near reading.toInt (reference initial earlier).toInt then reference initial earlier
      else reading := by
  rw [reference, List.foldl_concat]
  rfl

/-- All readings are near the initial one: nothing is published. -/
def Quiet (initial : Int16) (readings : List Int16) : Prop :=
  ∀ reading ∈ readings, Near reading.toInt initial.toInt

theorem quiet_concat {initial reading : Int16} {earlier : List Int16} :
    Quiet initial (earlier ++ [reading]) ↔
      Quiet initial earlier ∧ Near reading.toInt initial.toInt := by
  simp [Quiet, or_imp, forall_and]

/-- The task after the given readings. Before the first publication the store has the temperature
it had at the start, afterwards the one that was published. -/
structure Follows (initial : Int16) (stored : ℤ) (task : TemperatureTask)
    (readings : List Int16) : Prop where
  lastPublished : task.lastPublished = reference initial readings
  runs : task.store.current.state.Runs
  quiet : Quiet initial readings →
    task.lastPublished = initial ∧ task.store.current.temperature.toInt = stored
  published : ¬ Quiet initial readings →
    task.store.current.temperature.toInt = task.lastPublished.toInt

namespace Follows

variable {initial : Int16} {stored : ℤ} {task : TemperatureTask} {earlier : List Int16}

/-- A reading near the last published one publishes nothing. -/
theorem poll_near (h : Follows initial stored task earlier) {temperature : Int16}
    (hnear : Near temperature.toInt task.lastPublished.toInt) :
    Follows initial stored task (earlier ++ [temperature]) ∧
      (Near task.store.current.temperature.toInt temperature.toInt ↔
        (Quiet initial (earlier ++ [temperature]) → Near stored temperature.toInt)) := by
  have hreference : Near temperature.toInt (reference initial earlier).toInt := by
    rw [← h.lastPublished]
    exact hnear
  by_cases hquiet : Quiet initial earlier
  · -- the store still has the temperature from the start
    obtain ⟨hinitial, hstored⟩ := h.quiet hquiet
    rw [hinitial] at hnear
    have hquiet' : Quiet initial (earlier ++ [temperature]) := quiet_concat.mpr ⟨hquiet, hnear⟩
    constructor
    · refine ⟨?_, h.runs, fun _ => ⟨hinitial, hstored⟩, fun hloud => absurd hquiet' hloud⟩
      rw [reference_concat, if_pos hreference, h.lastPublished]
    · rw [hstored]
      exact ⟨fun hnear' _ => hnear', fun himp => himp hquiet'⟩
  · have hpublished := h.published hquiet
    have hloud : ¬ Quiet initial (earlier ++ [temperature]) :=
      fun hall => hquiet (quiet_concat.mp hall).1
    constructor
    · refine ⟨?_, h.runs, fun hall => absurd hall hloud, fun _ => hpublished⟩
      rw [reference_concat, if_pos hreference, h.lastPublished]
    · rw [hpublished]
      refine iff_of_true ?_ (fun hall => absurd hall hloud)
      unfold Near at hnear ⊢
      omega

/-- A reading far from the last published one is published. -/
theorem poll_far (h : Follows initial stored task earlier) {temperature : Int16}
    (hfar : ¬ Near temperature.toInt task.lastPublished.toInt) (timestamp : UInt64) :
    Follows initial stored
        ⟨task.store.updateTemperature temperature.toInt32 timestamp, temperature⟩
        (earlier ++ [temperature]) ∧
      ¬ Quiet initial (earlier ++ [temperature]) := by
  obtain ⟨htemperature, hstate⟩ :=
    updateTemperature_spec task.store temperature.toInt32 timestamp
  have hloud : ¬ Quiet initial (earlier ++ [temperature]) := by
    intro hall
    obtain ⟨hquiet, hnear⟩ := quiet_concat.mp hall
    rw [(h.quiet hquiet).1] at hfar
    exact hfar hnear
  refine ⟨⟨?_, ?_, fun hall => absurd hall hloud, ?_⟩, hloud⟩
  · rw [h.lastPublished] at hfar
    rw [reference_concat, if_neg hfar]
  · rw [hstate]
    exact h.runs
  · intro _
    rw [htemperature, Int16.toInt_toInt32]

/-- A reading that fits keeps the invariant, and the store has a temperature near it unless the
task is quiet and the temperature from before the start is not. -/
theorem poll (h : Follows initial stored task earlier) {temperature : Int16}
    (hfits : FitsI16 temperature (reference initial earlier)) (timestamp : UInt64) :
    ∃ next, task.pass (.poll (.ok temperature) timestamp) = .continues next ∧
      Follows initial stored next (earlier ++ [temperature]) ∧
      (Near next.store.current.temperature.toInt temperature.toInt ↔
        (Quiet initial (earlier ++ [temperature]) → Near stored temperature.toInt)) := by
  by_cases hnear : Near temperature.toInt task.lastPublished.toInt
  · exact ⟨task, TemperatureTask.pass_poll_of_near h.runs timestamp hnear, h.poll_near hnear⟩
  · rw [← h.lastPublished] at hfits
    obtain ⟨hfollows, hloud⟩ := h.poll_far hnear timestamp
    refine ⟨_, TemperatureTask.pass_poll_of_far h.runs timestamp hnear hfits, hfollows, ?_⟩
    have htemperature := (updateTemperature_spec task.store temperature.toInt32 timestamp).1
    rw [htemperature, Int16.toInt_toInt32]
    refine iff_of_true ?_ (fun hall => absurd hall hloud)
    rw [Near, sub_self]
    decide

/-- A subtraction that does not panic fits. -/
theorem fits_of_continues (h : Follows initial stored task earlier) {temperature : Int16}
    {timestamp : UInt64} {next : TemperatureTask}
    (hpass : task.pass (.poll (.ok temperature) timestamp) = .continues next) :
    FitsI16 temperature (reference initial earlier) := by
  by_contra hoverflow
  rw [← h.lastPublished] at hoverflow
  rw [TemperatureTask.pass_poll_of_overflow h.runs timestamp hoverflow] at hpass
  cases hpass

/-- An event whose reading, if it has one, fits keeps the invariant. -/
theorem event (h : Follows initial stored task earlier) {event : TemperatureEvent}
    (hforeign : ∀ call timestamp, event = .update call timestamp → call.Foreign)
    (hfits : ∀ temperature ∈ event.reading, FitsI16 temperature (reference initial earlier)) :
    ∃ next, task.pass event = .continues next ∧
      Follows initial stored next (earlier ++ event.reading.toList) := by
  cases event with
  | poll reading timestamp =>
    cases reading with
    | ok temperature =>
      obtain ⟨next, hpass, hnext, -⟩ := h.poll (hfits temperature rfl) timestamp
      exact ⟨next, hpass, hnext⟩
    | error code =>
      refine ⟨task, TemperatureTask.pass_poll_error h.runs timestamp code, ?_⟩
      exact (List.append_nil earlier).symm ▸ h
  | update call timestamp =>
    obtain ⟨htemperature, hruns⟩ := (hforeign call timestamp rfl).update h.runs timestamp
    refine ⟨_, rfl, ?_⟩
    change Follows initial stored _ (earlier ++ [])
    rw [List.append_nil]
    refine ⟨h.lastPublished, hruns, ?_, ?_⟩
    · intro hquiet
      exact ⟨(h.quiet hquiet).1, (congrArg Int32.toInt htemperature).trans (h.quiet hquiet).2⟩
    · intro hloud
      exact (congrArg Int32.toInt htemperature).trans (h.published hloud)

end Follows

/-! ## Runs of the task -/

theorem readings_concat (events : List TemperatureEvent) (event : TemperatureEvent) :
    readings (events ++ [event]) = readings events ++ event.reading.toList := by
  rw [readings, List.filterMap_append]
  cases hreading : event.reading with
  | none => simp [readings, hreading]
  | some temperature => simp [readings, hreading]

/-- Where in the run a reading was made. -/
theorem exists_poll_of_readings {events : List TemperatureEvent} {earlier later : List Int16}
    {reading : Int16} (h : readings events = earlier ++ reading :: later) :
    ∃ before timestamp after, events = before ++ .poll (.ok reading) timestamp :: after ∧
      readings before = earlier := by
  obtain ⟨front, back, rfl, hfront, hback⟩ := List.filterMap_eq_append_iff.mp h
  obtain ⟨skipped, event, after, rfl, hskipped, hevent, -⟩ := List.filterMap_eq_cons_iff.mp hback
  have hnone : skipped.filterMap TemperatureEvent.reading = [] :=
    List.filterMap_eq_nil_iff.mpr hskipped
  cases event with
  | poll answer timestamp =>
    cases answer with
    | ok temperature =>
      cases hevent
      refine ⟨front ++ skipped, timestamp, after, (List.append_assoc _ _ _).symm, ?_⟩
      rw [readings, List.filterMap_append, hfront, hnone, List.append_nil]
    | error code => cases hevent
  | update call timestamp => cases hevent

theorem readings_append_poll (before after : List TemperatureEvent) (reading : Int16)
    (timestamp : UInt64) :
    readings (before ++ .poll (.ok reading) timestamp :: after) =
      readings before ++ reading :: readings after :=
  List.filterMap_append

theorem ForeignUpdates.of_append {before after : List TemperatureEvent}
    (h : ForeignUpdates (before ++ after)) : ForeignUpdates before :=
  fun call timestamp hmem => h call timestamp (List.mem_append_left _ hmem)

theorem ForeignUpdates.concat {events : List TemperatureEvent} {event : TemperatureEvent}
    (h : ForeignUpdates (events ++ [event])) :
    ForeignUpdates events ∧
      ∀ call timestamp, event = .update call timestamp → StatusUpdate.Foreign call := by
  constructor
  · intro call timestamp hmem
    exact h call timestamp (List.mem_append_left _ hmem)
  · intro call timestamp heq
    exact h call timestamp (List.mem_append_right _ (List.mem_singleton.mpr heq.symm))

section

variable {store : DeviceStatusStore} {initial : Except StatusCode Int16}
  (hruns : store.current.state.Runs)

include hruns

theorem follows_start :
    Follows (TemperatureTask.start store initial).lastPublished store.current.temperature.toInt
      (.start store initial) [] :=
  ⟨rfl, hruns, fun _ => ⟨rfl, rfl⟩, fun h => absurd (fun _ hmem => by cases hmem) h⟩

/-- While the task runs it follows its readings. -/
theorem follows_of_continues {events : List TemperatureEvent} (hforeign : ForeignUpdates events)
    {task : TemperatureTask}
    (hrun : runLoop TemperatureTask.pass (.start store initial) events = .continues task) :
    Follows (TemperatureTask.start store initial).lastPublished store.current.temperature.toInt
      task (readings events) := by
  induction events using List.reverseRecOn generalizing task with
  | nil =>
    cases hrun
    exact follows_start hruns
  | append_singleton events event ih =>
    obtain ⟨hearlier, hlast⟩ := hforeign.concat
    obtain ⟨before, hbefore, hpass⟩ := runLoop_concat_eq_continues.mp hrun
    have hfollows := ih hearlier hbefore
    -- a pass that has not panicked has a difference that fits
    have hfits : ∀ temperature ∈ event.reading, FitsI16 temperature
        (reference (TemperatureTask.start store initial).lastPublished (readings events)) := by
      intro temperature hreading
      cases event with
      | poll reading timestamp =>
        cases reading with
        | ok temperature' =>
          cases hreading
          exact hfollows.fits_of_continues hpass
        | error code => cases hreading
      | update call timestamp => cases hreading
    obtain ⟨next, hnext, hfollows'⟩ := hfollows.event hlast hfits
    cases hpass.symm.trans hnext
    rw [readings_concat]
    exact hfollows'

/-- The task runs as long as its readings fit. -/
theorem continues_of_fits {events : List TemperatureEvent} (hforeign : ForeignUpdates events)
    (hfits : ∀ earlier reading later, readings events = earlier ++ reading :: later →
      FitsI16 reading
        (reference (TemperatureTask.start store initial).lastPublished earlier)) :
    ∃ task, runLoop TemperatureTask.pass (.start store initial) events = .continues task := by
  induction events using List.reverseRecOn with
  | nil => exact ⟨_, rfl⟩
  | append_singleton events event ih =>
    obtain ⟨hearlier, hlast⟩ := hforeign.concat
    rw [readings_concat] at hfits
    -- the readings before the last event fit as well
    obtain ⟨before, hbefore⟩ := ih hearlier (by
      intro earlier reading later heq
      apply hfits earlier reading (later ++ event.reading.toList)
      rw [heq, List.append_assoc, List.cons_append])
    have hfollows := follows_of_continues hruns hearlier hbefore
    obtain ⟨next, hnext, -⟩ := hfollows.event hlast (by
      intro temperature hreading
      apply hfits (readings events) temperature []
      rw [Option.mem_def.mp hreading]
      rfl)
    exact ⟨next, runLoop_concat_eq_continues.mpr ⟨before, hbefore, hnext⟩⟩

end

/-- After every successful poll of the run the task is still going, so no subtraction has
overflowed, and the published temperature is near the reading. -/
def TracksReadings (task : TemperatureTask) (events : List TemperatureEvent) : Prop :=
  ∀ earlier temperature timestamp later,
    events = earlier ++ .poll (.ok temperature) timestamp :: later →
    ∃ after, runLoop TemperatureTask.pass task (earlier ++ [.poll (.ok temperature) timestamp]) =
        .continues after ∧
      Near after.store.current.temperature.toInt temperature.toInt

/-- **The published temperature tracks the sensor exactly if** every reading fits into `i16`
together with the reading it is compared with, and as long as all readings are near the first
one they are also near the temperature that the store had before. -/
theorem tracksReadings_iff {store : DeviceStatusStore} {initial : Except StatusCode Int16}
    {events : List TemperatureEvent} (hruns : store.current.state.Runs)
    (hforeign : ForeignUpdates events) :
    TracksReadings (.start store initial) events ↔
      ∀ earlier reading later, readings events = earlier ++ reading :: later →
        FitsI16 reading
          (reference (TemperatureTask.start store initial).lastPublished earlier) ∧
        (Quiet (TemperatureTask.start store initial).lastPublished (earlier ++ [reading]) →
          Near store.current.temperature.toInt reading.toInt) := by
  constructor
  -- cut the run at the poll that has brought the reading
  · intro h earlier reading later hreadings
    obtain ⟨before, timestamp, rest, rfl, rfl⟩ := exists_poll_of_readings hreadings
    obtain ⟨after, hrun, hnear⟩ := h before reading timestamp rest rfl
    obtain ⟨task, hbefore, hpass⟩ := runLoop_concat_eq_continues.mp hrun
    have hfollows := follows_of_continues hruns hforeign.of_append hbefore
    have hfits := hfollows.fits_of_continues hpass
    obtain ⟨next, hnext, -, hiff⟩ := hfollows.poll hfits timestamp
    cases hpass.symm.trans hnext
    exact ⟨hfits, hiff.mp hnear⟩
  -- the earlier readings fit, so the task has not panicked before
  · rintro h before temperature timestamp rest rfl
    have hsplit := readings_append_poll before rest temperature timestamp
    obtain ⟨hfits, hquiet⟩ := h _ _ _ hsplit
    obtain ⟨task, hbefore⟩ := continues_of_fits hruns hforeign.of_append (by
      intro earlier reading later heq
      apply (h earlier reading (later ++ temperature :: readings rest) ?_).1
      rw [hsplit, heq, List.append_assoc, List.cons_append])
    have hfollows := follows_of_continues hruns hforeign.of_append hbefore
    obtain ⟨next, hnext, -, hiff⟩ := hfollows.poll hfits timestamp
    exact ⟨next, runLoop_concat_eq_continues.mpr ⟨task, hbefore, hnext⟩, hiff.mpr hquiet⟩

/-- A sensor that warms up from zero. -/
def warmingUp : List TemperatureEvent :=
  [.poll (.ok 3) 10, .update (.missedCycles 1) 12, .poll (.error .errOsFailure) 20,
    .poll (.ok 7) 30, .poll (.ok 9) 40]

theorem tracksReadings_iff_warmingUp : TracksReadings (.start (.new 0) (.ok 0)) warmingUp := by
  apply (tracksReadings_iff (by decide) ?_).mpr
  · intro earlier reading later heq
    change [3, 7, 9] = _ at heq
    rcases earlier with _ | ⟨first, _ | ⟨second, _ | ⟨third, rest⟩⟩⟩
    · cases heq
      exact ⟨by decide, fun _ => by decide⟩
    · cases heq
      refine ⟨by decide, fun hquiet => absurd (hquiet 7 (by decide)) (by decide)⟩
    · cases heq
      refine ⟨by decide, fun hquiet => absurd (hquiet 7 (by decide)) (by decide)⟩
    · cases rest <;> cases heq
  · intro call timestamp hmem
    simp only [warmingUp, List.mem_cons, List.not_mem_nil, reduceCtorEq, false_or, or_false,
      TemperatureEvent.update.injEq] at hmem
    rw [hmem.1]
    exact ⟨rfl, fun state hstate => by cases hstate⟩

/-- A device at 20 degrees: the first reading counts as published, so the readings around it are
never published and the status says 0. -/
theorem not_tracksReadings_room_temperature :
    ¬ TracksReadings (.start (.new 0) (.ok 20)) [.poll (.ok 20) 10, .poll (.ok 21) 20] := by
  intro h
  obtain ⟨after, hrun, hnear⟩ := h [] 20 10 [.poll (.ok 21) 20] rfl
  have hsilent : runLoop TemperatureTask.pass (.start (.new 0) (.ok 20)) [.poll (.ok 20) 10] =
      .continues (.start (.new 0) (.ok 20)) := rfl
  cases hsilent.symm.trans hrun
  revert hnear
  decide

/-- A sensor that jumps from one end of its range to the other stops the task. -/
example :
    runLoop TemperatureTask.pass (.start (.new 0) (.ok (-30000))) [.poll (.ok 30000) 10] =
      .panics := rfl

end TsnFieldbus
