import TsnFieldbus.Common.L2Utils
import TsnFieldbus.Demo.Plant
import TsnFieldbus.Foundations.Text

/-!
# The Post-Run Summary

`post_run.rs`, which reads the log files of a finished demo, with the lines that the control loop,
the L2 threads and the status tasks write to them. The lines come in any order, and a log may hold
any other text.

- `runPostRunLogAnalysis_log`: the summary is what the reports in the logs say.
- `parseControlMetrics_log`: the reported counts are the turns that the control loop has taken.
- `summary_within_sensed`: the summary of a run of the plant never reports more than the sensor
  has been through.
-/

namespace TsnFieldbus

open Foundations

/-! ## Fields -/

/-- `parse_numeric_field_u64`. -/
def parseNumericFieldU64 (line fieldName : List Char) : Option UInt64 :=
  (field (fieldName ++ ['=']) (parseUnsigned (2 ^ 64)) line).map UInt64.ofNat

/-- `parse_bool_field`. -/
def parseBoolField (line fieldName : List Char) : Option Bool :=
  field (fieldName ++ ['='])
    (fun value =>
      if value = "true".toList then some true
      else if value = "false".toList then some false
      else none)
    line

/-! ## Cycle times -/

/-- `CycleStats`. -/
structure CycleStats where
  minNs : UInt64
  maxNs : UInt64
  avgNs : UInt64
deriving DecidableEq, Repr

/-- `parse_cycle_stats`. -/
def parseCycleStats (line : List Char) : Option CycleStats := do
  let minNs ← parseNumericFieldU64 line "min_ns".toList
  let maxNs ← parseNumericFieldU64 line "max_ns".toList
  let avgNs ← parseNumericFieldU64 line "avg_ns".toList
  some { minNs := minNs, maxNs := maxNs, avgNs := avgNs }

/-- `DeviceCycles`. -/
structure DeviceCycles where
  send : Option CycleStats
  receive : Option CycleStats
deriving DecidableEq, Repr

/-- What a line with the marker says about a device. -/
def DeviceCycles.readLine (cycles : DeviceCycles) (line : List Char) : DeviceCycles :=
  if "direction=send".toList <:+: line then { cycles with send := parseCycleStats line }
  else if "direction=receive".toList <:+: line then
    { cycles with receive := parseCycleStats line }
  else cycles

/-- The kinds of metrics that an L2 thread reports when it ends. -/
inductive L2Metric where
  | cycle
  | jitter
deriving DecidableEq, Repr

/-- The kind in the line. -/
def L2Metric.name : L2Metric → List Char
  | .cycle => "cycle".toList
  | .jitter => "jitter".toList

/-- What the readers look for. -/
def L2Metric.marker (metric : L2Metric) : List Char :=
  "L2 ".toList ++ (metric.name ++ " metrics".toList)

/-- `parse_device_cycles` and `parse_device_jitter`. -/
def parseDeviceMetrics (metric : L2Metric) (content : List Char) : DeviceCycles :=
  readMarked metric.marker DeviceCycles.readLine content ⟨none, none⟩

/-- `parse_device_cycles`. -/
def parseDeviceCycles (content : List Char) : DeviceCycles := parseDeviceMetrics .cycle content

/-- `parse_device_jitter`. -/
def parseDeviceJitter (content : List Char) : DeviceCycles := parseDeviceMetrics .jitter content

/-! ## Missed cycles -/

/-- A total in the line replaces the one before. -/
def readTotal (fieldName : List Char) (total : UInt64) (line : List Char) : UInt64 :=
  (parseNumericFieldU64 line fieldName).getD total

/-- `parse_master_missed_cycles`. -/
def parseMasterMissedCycles (content : List Char) : UInt64 :=
  readMarked "L2 missed cycles component=master".toList (readTotal "total".toList) content 0

/-- The loop body of `parse_slave_missed_cycles`, for the temperature slave and the valve slave. -/
def readSlaveMissedCycles (missed : UInt64 × UInt64) (line : List Char) : UInt64 × UInt64 :=
  if "Temperature status update:".toList <:+: line then
    (readTotal "missed_cycles".toList missed.1 line, missed.2)
  else if "Valve status update:".toList <:+: line then
    (missed.1, readTotal "missed_cycles".toList missed.2 line)
  else missed

/-- `parse_slave_missed_cycles`. -/
def parseSlaveMissedCycles (masterLog : List Char) : UInt64 × UInt64 :=
  (lines masterLog).foldl readSlaveMissedCycles (0, 0)

/-! ## The control loop -/

/-- `MasterControlMetrics`. -/
structure MasterControlMetrics where
  valveOpenCloseCycles : UInt64
  temperatureWaveIterations : UInt64
deriving DecidableEq, Repr

/-- `TemperaturePhase`. -/
inductive TemperaturePhase where
  | waitingAtZero
  | rising
  | falling
deriving DecidableEq, Repr

/-- What `parse_control_metrics` remembers. -/
structure ControlParser where
  metrics : MasterControlMetrics
  previousValveState : Option Bool
  temperaturePhase : TemperaturePhase
deriving DecidableEq, Repr

namespace ControlParser

def start : ControlParser := ⟨⟨0, 0⟩, none, .waitingAtZero⟩

/-- A valve state in the line: an open valve that closes counts. -/
def readValve (s : ControlParser) (valveOpen : Bool) : ControlParser :=
  { s with
    metrics :=
      if s.previousValveState = some true ∧ valveOpen = false then
        { s.metrics with valveOpenCloseCycles := saturatingAdd s.metrics.valveOpenCloseCycles 1 }
      else s.metrics
    previousValveState := some valveOpen }

/-- A temperature in the line: from the bottom to the top and back counts. -/
def readTemperature (s : ControlParser) (temperature : UInt64) : ControlParser :=
  match s.temperaturePhase with
  | .waitingAtZero => if temperature ≤ 5 then { s with temperaturePhase := .rising } else s
  | .rising => if temperature ≥ 145 then { s with temperaturePhase := .falling } else s
  | .falling =>
    if temperature ≤ 5 then
      { s with
        metrics := { s.metrics with
          temperatureWaveIterations := saturatingAdd s.metrics.temperatureWaveIterations 1 }
        temperaturePhase := .rising }
    else s

/-- The loop body of `parse_control_metrics` behind its check. -/
def readLine (s : ControlParser) (line : List Char) : ControlParser :=
  let s := (parseBoolField line "valve_open".toList).elim s s.readValve
  (parseNumericFieldU64 line "temperature".toList).elim s s.readTemperature

end ControlParser

/-- `parse_control_metrics`. -/
def parseControlMetrics (masterLog : List Char) : MasterControlMetrics :=
  (readMarked "Control loop:".toList ControlParser.readLine masterLog .start).metrics

/-! ## The summary -/

/-- What `run_post_run_log_analysis` writes to the summary, but for the system performance. -/
structure PostRunSummary where
  controlMetrics : MasterControlMetrics
  masterCycles : DeviceCycles
  temperatureCycles : DeviceCycles
  valveCycles : DeviceCycles
  masterJitter : DeviceCycles
  temperatureJitter : DeviceCycles
  valveJitter : DeviceCycles
  masterMissedCycles : UInt64
  /-- Of the temperature slave and the valve slave. -/
  slaveMissedCycles : UInt64 × UInt64
deriving DecidableEq, Repr

/-- `run_post_run_log_analysis`, on the contents of the log files. -/
def runPostRunLogAnalysis (masterContent temperatureContent valveContent : List Char) :
    PostRunSummary :=
  { controlMetrics := parseControlMetrics masterContent
    masterCycles := parseDeviceCycles masterContent
    temperatureCycles := parseDeviceCycles temperatureContent
    valveCycles := parseDeviceCycles valveContent
    masterJitter := parseDeviceJitter masterContent
    temperatureJitter := parseDeviceJitter temperatureContent
    valveJitter := parseDeviceJitter valveContent
    masterMissedCycles := parseMasterMissedCycles masterContent
    slaveMissedCycles := parseSlaveMissedCycles masterContent }

/-! ## Reports -/

/-- The directions in the reports of the L2 threads. -/
inductive L2Traffic where
  | send
  | receive
deriving DecidableEq, Repr

/-- The tasks of the master that log what a slave reports. -/
inductive StatusTask where
  | temperature
  | valve
deriving DecidableEq, Repr

/-- What the reader looks for. -/
def StatusTask.marker : StatusTask → List Char
  | .temperature => "Temperature status update:".toList
  | .valve => "Valve status update:".toList

/-- What a status task logs. -/
structure StatusReport where
  state : Int32
  statusCode : Int32
  missedCycles : UInt32
  receiveCycle : CycleStats
  sendCycle : CycleStats

/-- The lines of the demo that the summary is made of. -/
inductive DemoReport where
  | control (temperature : UInt16) (valveOpen : Bool)
  | metrics (metric : L2Metric) (party : L2Party) (traffic : L2Traffic) (recorded : CycleMetrics)
  | missed (total : UInt64)
  | status (task : StatusTask) (reported : StatusReport)

def L2Metric.item : L2Metric → Item
  | .cycle => wordItem "cycle".toList
  | .jitter => wordItem "jitter".toList

def componentItem : L2Party → Item
  | .master => wordItem "component=master".toList
  | .slave => wordItem "component=slave".toList

def L2Traffic.item : L2Traffic → Item
  | .send => wordItem "direction=send".toList
  | .receive => wordItem "direction=receive".toList

def StatusTask.item : StatusTask → Item
  | .temperature => wordItem "Temperature".toList
  | .valve => wordItem "Valve".toList

/-- What a thread reports about its metrics. -/
def metricsItems (metrics : CycleMetrics) : List Item :=
  match metrics.values with
  | some (minNs, maxNs, averageNs) =>
    [natItem "min_ns=".toList minNs.toNat, natItem "max_ns=".toList maxNs.toNat,
      natItem "avg_ns=".toList averageNs.toNat, natItem "samples=".toList metrics.samples.toNat]
  | none => [wordItem "unavailable=true".toList]

/-- The keys in it. -/
def metricsKeys : List (List Char) :=
  ["min_ns=".toList, "max_ns=".toList, "avg_ns=".toList, "samples=".toList,
    "unavailable=true".toList]

theorem keys_metricsItems (recorded : CycleMetrics) :
    (metricsItems recorded).map Item.key ⊆ metricsKeys := by
  unfold metricsItems
  split
  · exact List.subset_append_left _ ["unavailable=true".toList]
  · simp [wordItem, metricsKeys]

/-- The statistics in a report, if there are any. -/
def CycleMetrics.stats (recorded : CycleMetrics) : Option CycleStats :=
  recorded.values.map fun (minNs, maxNs, averageNs) =>
    { minNs := minNs, maxNs := maxNs, avgNs := averageNs }

namespace DemoReport

/-- The words of the message. -/
def items : DemoReport → List Item
  | .control temperature valveOpen =>
    [wordItem "Control".toList, wordItem "loop:".toList,
      natItem "temperature=".toList temperature.toNat,
      boolItem "valve_open=".toList valveOpen]
  | .metrics metric party traffic recorded =>
    [wordItem "L2".toList, metric.item, wordItem "metrics".toList, componentItem party,
      traffic.item] ++
      metricsItems recorded
  | .missed total =>
    [wordItem "L2".toList, wordItem "missed".toList, wordItem "cycles".toList,
      wordItem "component=master".toList,
      natItem "total=".toList total.toNat]
  | .status task reported =>
    [task.item, wordItem "status".toList, wordItem "update:".toList,
      intItem "state=".toList reported.state.toInt,
      intItem "status_code=".toList reported.statusCode.toInt,
      natItem "missed_cycles=".toList reported.missedCycles.toNat,
      natItem "receive_cycle_min_ns=".toList reported.receiveCycle.minNs.toNat,
      natItem "receive_cycle_max_ns=".toList reported.receiveCycle.maxNs.toNat,
      natItem "receive_cycle_avg_ns=".toList reported.receiveCycle.avgNs.toNat,
      natItem "send_cycle_min_ns=".toList reported.sendCycle.minNs.toNat,
      natItem "send_cycle_max_ns=".toList reported.sendCycle.maxNs.toNat,
      natItem "send_cycle_avg_ns=".toList reported.sendCycle.avgNs.toNat]

/-- The message. -/
def message (report : DemoReport) : List Char := unwords (report.items.map Item.word)

/-- The level of the line. -/
def level : DemoReport → List Char
  | .control _ _ => "DEBUG".toList
  | _ => "INFO".toList

/-- The module that logs the line. -/
def target : DemoReport → List Char
  | .control _ _ => "demo".toList
  | .metrics _ .master _ _ => "master::l2_handler".toList
  | .metrics _ .slave _ _ => "slave::l2_handler".toList
  | .missed _ => "master::l2_handler".toList
  | .status _ _ => "demo".toList

end DemoReport

/-- A line of `ComponentFileLogger::log`: time in milliseconds, level, module and message. -/
def logLine (timestamp : ℕ) (level target message : List Char) : List Char :=
  Nat.toDigits 10 timestamp ++ (" [".toList ++ (level ++ ("] [".toList ++
    (target ++ ("] ".toList ++ message)))))

namespace DemoReport

/-- The line with the report. -/
def line (timestamp : ℕ) (report : DemoReport) : List Char :=
  logLine timestamp report.level report.target report.message

/-- All words of the line. -/
def lineItems (timestamp : ℕ) (report : DemoReport) : List Item :=
  [natItem [] timestamp, wordItem ('[' :: (report.level ++ [']'])),
    wordItem ('[' :: (report.target ++ [']']))] ++ report.items

theorem line_eq (timestamp : ℕ) (report : DemoReport) :
    report.line timestamp = unwords ((report.lineItems timestamp).map Item.word) := by
  have hitems : ∃ first rest, report.items = first :: rest := by
    cases report <;> exact ⟨_, _, rfl⟩
  obtain ⟨first, rest, hitems⟩ := hitems
  simp [line, logLine, message, lineItems, hitems, unwords, Item.word, natItem, wordItem]

theorem plain_metricsItems (recorded : CycleMetrics) :
    ∀ item ∈ metricsItems recorded, item.Plain := by
  unfold metricsItems
  split
  · simp only [List.forall_mem_cons]
    exact ⟨plain_natItem (by decide) _, plain_natItem (by decide) _, plain_natItem (by decide) _,
      plain_natItem (by decide) _, List.forall_mem_nil _⟩
  · rw [List.forall_mem_singleton]
    exact plain_wordItem (by decide)

theorem plain_items (report : DemoReport) : ∀ item ∈ report.items, item.Plain := by
  cases report with
  | control temperature valveOpen =>
    simp only [items, List.forall_mem_cons]
    exact ⟨plain_wordItem (by decide), plain_wordItem (by decide), plain_natItem (by decide) _,
      plain_boolItem (by decide) _, List.forall_mem_nil _⟩
  | metrics metric party traffic recorded =>
    simp only [items, List.forall_mem_append, List.forall_mem_cons]
    refine ⟨⟨plain_wordItem (by decide), ?_, plain_wordItem (by decide), ?_, ?_,
      List.forall_mem_nil _⟩, plain_metricsItems recorded⟩
    · cases metric <;> exact plain_wordItem (by decide)
    · cases party <;> exact plain_wordItem (by decide)
    · cases traffic <;> exact plain_wordItem (by decide)
  | missed total =>
    simp only [items, List.forall_mem_cons]
    exact ⟨plain_wordItem (by decide), plain_wordItem (by decide), plain_wordItem (by decide),
      plain_wordItem (by decide), plain_natItem (by decide) _, List.forall_mem_nil _⟩
  | status task reported =>
    simp only [items, List.forall_mem_cons]
    refine ⟨?_, plain_wordItem (by decide), plain_wordItem (by decide),
      plain_intItem (by decide) _, plain_intItem (by decide) _, plain_natItem (by decide) _,
      plain_natItem (by decide) _, plain_natItem (by decide) _, plain_natItem (by decide) _,
      plain_natItem (by decide) _, plain_natItem (by decide) _, plain_natItem (by decide) _,
      List.forall_mem_nil _⟩
    cases task <;> exact plain_wordItem (by decide)

theorem plain_lineItems (timestamp : ℕ) (report : DemoReport) :
    ∀ item ∈ report.lineItems timestamp, item.Plain := by
  -- level and target are fixed words in brackets
  have hlevel : IsWord ('[' :: (report.level ++ [']'])) := by
    have hdebug : IsWord "[DEBUG]".toList := by decide
    have hinfo : IsWord "[INFO]".toList := by decide
    cases report with
    | control temperature valveOpen => exact hdebug
    | _ => exact hinfo
  have htarget : IsWord ('[' :: (report.target ++ [']'])) := by
    have hdemo : IsWord "[demo]".toList := by decide
    have hmaster : IsWord "[master::l2_handler]".toList := by decide
    have hslave : IsWord "[slave::l2_handler]".toList := by decide
    cases report with
    | control temperature valveOpen => exact hdemo
    | metrics metric party traffic recorded =>
      cases party with
      | master => exact hmaster
      | slave => exact hslave
    | missed total => exact hmaster
    | status task reported => exact hdemo
  rw [lineItems, List.forall_mem_append]
  refine ⟨?_, report.plain_items⟩
  intro item hmem
  -- timestamp, level and target, in this order
  rcases List.mem_cons.mp hmem with rfl | hmem
  · exact plain_natItem_nil timestamp
  · rcases List.mem_cons.mp hmem with rfl | hmem
    · exact plain_wordItem hlevel
    · rw [List.mem_singleton.mp hmem]
      exact plain_wordItem htarget

/-- A report is one line. -/
theorem oneLine (timestamp : ℕ) (report : DemoReport) :
    '\n' ∉ report.line timestamp ∧ (report.line timestamp).getLast? ≠ some '\r' := by
  have hwords : ∀ word ∈ (report.lineItems timestamp).map Item.word, IsWord word :=
    List.forall_mem_map.mpr fun item hmem => (report.plain_lineItems timestamp item hmem).isWord
  rw [line_eq]
  refine ⟨not_mem_unwords hwords rfl (by decide), fun hlast => ?_⟩
  exact not_mem_unwords hwords rfl (by decide) (List.mem_of_getLast? hlast)

/-- What the words of a report depend on, but for their values. -/
inductive Shape where
  | control
  | metrics (metric : L2Metric) (party : L2Party) (traffic : L2Traffic)
  | missed
  | status (task : StatusTask)

def shape : DemoReport → Shape
  | .control _ _ => .control
  | .metrics metric party traffic _ => .metrics metric party traffic
  | .missed _ => .missed
  | .status task _ => .status task

/-- The keys of a report on metrics before the values. -/
def metricsFront (metric : L2Metric) (party : L2Party) (traffic : L2Traffic) : List (List Char) :=
  [[], "[INFO]".toList,
    match party with
    | .master => "[master::l2_handler]".toList
    | .slave => "[slave::l2_handler]".toList,
    "L2".toList, metric.item.key, "metrics".toList, (componentItem party).key, traffic.item.key]

/-- The keys that may occur in a line. -/
def Shape.keys : Shape → List (List Char)
  | .control =>
    [[], "[DEBUG]".toList, "[demo]".toList, "Control".toList, "loop:".toList,
      "temperature=".toList, "valve_open=".toList]
  | .metrics metric party traffic =>
    metricsFront metric party traffic ++ metricsKeys
  | .missed =>
    [[], "[INFO]".toList, "[master::l2_handler]".toList, "L2".toList, "missed".toList,
      "cycles".toList, "component=master".toList, "total=".toList]
  | .status task =>
    [[], "[INFO]".toList, "[demo]".toList, task.item.key, "status".toList, "update:".toList,
      "state=".toList, "status_code=".toList, "missed_cycles=".toList,
      "receive_cycle_min_ns=".toList, "receive_cycle_max_ns=".toList,
      "receive_cycle_avg_ns=".toList, "send_cycle_min_ns=".toList, "send_cycle_max_ns=".toList,
      "send_cycle_avg_ns=".toList]

theorem keys_metrics (timestamp : ℕ) (metric : L2Metric) (party : L2Party) (traffic : L2Traffic)
    (recorded : CycleMetrics) :
    ((DemoReport.metrics metric party traffic recorded).lineItems timestamp).map Item.key =
      metricsFront metric party traffic ++ (metricsItems recorded).map Item.key := by
  rw [lineItems, items, ← List.append_assoc, List.map_append]
  cases party <;> rfl

theorem keys_lineItems (timestamp : ℕ) (report : DemoReport) :
    (report.lineItems timestamp).map Item.key ⊆ report.shape.keys := by
  cases report with
  | control temperature valveOpen => exact List.Subset.refl _
  | missed total => exact List.Subset.refl _
  | status task reported => exact List.Subset.refl _
  | metrics metric party traffic recorded =>
    rw [keys_metrics]
    exact List.append_subset.mpr ⟨List.subset_append_left _ _,
      List.Subset.trans (keys_metricsItems recorded) (List.subset_append_right _ _)⟩

/-! ## Reading a line -/

/-- The fields that are read. -/
def fieldNames : List (List Char) :=
  ["min_ns".toList, "max_ns".toList, "avg_ns".toList, "total".toList, "missed_cycles".toList,
    "temperature".toList, "valve_open".toList]

/-- No other key begins like that of a field. -/
theorem key_eq_of_prefix (shape : Shape) : ∀ name ∈ fieldNames, ∀ key ∈ shape.keys,
    name ++ ['='] <+: key → key = name ++ ['='] := by
  cases shape with
  | control => decide +kernel
  | missed => decide +kernel
  | metrics metric party traffic =>
    cases metric <;> cases party <;> cases traffic <;> decide +kernel
  | status task => cases task <;> decide +kernel

variable {timestamp : ℕ} {report : DemoReport}

/-- A number is read back from the line. -/
theorem parseNumericFieldU64_line {name : List Char} {n : ℕ} (hname : name ∈ fieldNames)
    (hfind : ((report.lineItems timestamp).find? fun item => item.key = name ++ ['=']).map
      Item.value = some (Nat.toDigits 10 n)) (hfits : n < 2 ^ 64) :
    parseNumericFieldU64 (report.line timestamp) name = some (UInt64.ofNat n) := by
  rw [parseNumericFieldU64, line_eq, field_items (report.plain_lineItems timestamp) _ hfind
    Nat.toDigits_ne_nil (parseUnsigned_toDigits hfits), Option.map_some]
  intro key hmem
  exact key_eq_of_prefix report.shape name hname key (report.keys_lineItems timestamp hmem)

/-- A part of the marker is in none of the keys. -/
def Shape.Lacks (shape : Shape) (marker : List Char) : Prop :=
  ∃ front c, front ++ [c] <:+: marker ∧ ' ' ∉ front ++ [c] ∧ isValueChar c = false ∧
    ∀ key ∈ shape.keys, ¬ front ++ [c] <:+: key

theorem not_infix_line (report : DemoReport) {marker : List Char}
    (h : report.shape.Lacks marker) : ¬ marker <:+: report.line timestamp := by
  obtain ⟨front, c, hpart, hblank, hc, hkeys⟩ := h
  intro hmarker
  rw [line_eq] at hmarker
  apply not_infix_items (report.plain_lineItems timestamp) hblank hc _ (hpart.trans hmarker)
  intro key hmem
  exact hkeys key (report.keys_lineItems timestamp hmem)

/-- A message begins with a marker. -/
theorem infix_line {first : Item} {front rest : List Item}
    (hitems : report.items = first :: front ++ rest) :
    unwords ((first :: front).map Item.word) <:+: report.line timestamp := by
  have hline : (report.lineItems timestamp).map Item.word =
      (List.map Item.word [natItem [] timestamp, wordItem ('[' :: (report.level ++ [']'])),
        wordItem ('[' :: (report.target ++ [']']))]) ++ (first :: front).map Item.word ++
        rest.map Item.word := by
    rw [lineItems, hitems, List.map_append, List.map_append, ← List.append_assoc]
  rw [line_eq, hline]
  exact unwords_infix _ (List.cons_ne_nil first.word (front.map Item.word)) _

theorem word_infix_line {item : Item} (h : item ∈ report.lineItems timestamp) :
    item.word <:+: report.line timestamp := by
  rw [line_eq]
  exact infix_unwords_of_mem (List.mem_map_of_mem h)

/-! ## Cycle times in the reports -/

theorem marker_metrics (metric : L2Metric) {party : L2Party} {traffic : L2Traffic}
    {recorded : CycleMetrics} :
    metric.marker <:+: (DemoReport.metrics metric party traffic recorded).line timestamp := by
  have hmarker := @infix_line timestamp (.metrics metric party traffic recorded) _
    [metric.item, wordItem "metrics".toList] _ rfl
  cases metric <;> exact hmarker

/-- Other lines do not have the marker. -/
theorem Shape.lacks_metrics {shape : Shape} {metric : L2Metric}
    (h : ∀ party traffic, shape ≠ .metrics metric party traffic) : shape.Lacks metric.marker := by
  cases shape with
  | control => exact ⟨[], 'L', by cases metric <;> decide, by decide, rfl, by decide⟩
  | missed =>
    exact ⟨"metri".toList, 'c', by cases metric <;> decide, by decide, rfl, by decide⟩
  | status task =>
    exact ⟨[], 'L', by cases metric <;> decide, by decide, rfl, by cases task <;> decide⟩
  | metrics other party traffic =>
    cases metric with
    | cycle =>
      cases other with
      | cycle => exact absurd rfl (h party traffic)
      | jitter =>
        exact ⟨"cy".toList, 'c', by decide, by decide, rfl,
          by cases party <;> cases traffic <;> decide⟩
    | jitter =>
      cases other with
      | jitter => exact absurd rfl (h party traffic)
      | cycle =>
        exact ⟨[], 'j', by decide, by decide, rfl,
          by cases party <;> cases traffic <;> decide⟩

/-- The reader of one direction does not find the other. -/
theorem Shape.lacks_send {metric : L2Metric} {party : L2Party} :
    (Shape.metrics metric party .receive).Lacks "direction=send".toList :=
  ⟨"direction=sen".toList, 'd', by decide, by decide, rfl,
    by cases metric <;> cases party <;> decide⟩

/-- The statistics are read back from the line. -/
theorem parseCycleStats_line (metric : L2Metric) (party : L2Party) (traffic : L2Traffic)
    (recorded : CycleMetrics) :
    parseCycleStats ((DemoReport.metrics metric party traffic recorded).line timestamp) =
      recorded.stats := by
  cases hvalues : recorded.values with
  -- a line without measurements has no key `min_ns`
  | none =>
    have hitems : metricsItems recorded = [wordItem "unavailable=true".toList] := by
      rw [metricsItems, hvalues]
    have hkeys : ∀ key ∈ ((DemoReport.metrics metric party traffic recorded).lineItems
        timestamp).map Item.key, ¬ "min_ns".toList ++ ['='] <+: key := by
      rw [keys_metrics, hitems]
      cases metric <;> cases party <;> cases traffic <;> decide
    have hnone : parseNumericFieldU64
        ((DemoReport.metrics metric party traffic recorded).line timestamp) "min_ns".toList =
          none := by
      rw [parseNumericFieldU64, line_eq, field_items_eq_none (plain_lineItems _ _) hkeys]
      rfl
    rw [parseCycleStats, hnone, CycleMetrics.stats, hvalues]
    rfl
  -- the three fields are read back from their decimal text
  | some values =>
    obtain ⟨minNs, maxNs, averageNs⟩ := values
    have hitems : metricsItems recorded = [natItem "min_ns=".toList minNs.toNat,
        natItem "max_ns=".toList maxNs.toNat, natItem "avg_ns=".toList averageNs.toNat,
        natItem "samples=".toList recorded.samples.toNat] := by
      rw [metricsItems, hvalues]
    have hmin : parseNumericFieldU64
        ((DemoReport.metrics metric party traffic recorded).line timestamp) "min_ns".toList =
          some minNs := by
      rw [parseNumericFieldU64_line (by decide) _ minNs.toNat_lt, UInt64.ofNat_toNat]
      rw [lineItems, items, hitems]
      cases metric <;> cases party <;> cases traffic <;> rfl
    have hmax : parseNumericFieldU64
        ((DemoReport.metrics metric party traffic recorded).line timestamp) "max_ns".toList =
          some maxNs := by
      rw [parseNumericFieldU64_line (by decide) _ maxNs.toNat_lt, UInt64.ofNat_toNat]
      rw [lineItems, items, hitems]
      cases metric <;> cases party <;> cases traffic <;> rfl
    have havg : parseNumericFieldU64
        ((DemoReport.metrics metric party traffic recorded).line timestamp) "avg_ns".toList =
          some averageNs := by
      rw [parseNumericFieldU64_line (by decide) _ averageNs.toNat_lt, UInt64.ofNat_toNat]
      rw [lineItems, items, hitems]
      cases metric <;> cases party <;> cases traffic <;> rfl
    rw [parseCycleStats, hmin, hmax, havg, CycleMetrics.stats, hvalues]
    rfl

/-- What a report is for the reader of cycle times. -/
def readCycles (metric : L2Metric) (cycles : DeviceCycles) : DemoReport → DeviceCycles
  | .metrics other _ traffic recorded =>
    if other = metric then
      match traffic with
      | .send => { cycles with send := recorded.stats }
      | .receive => { cycles with receive := recorded.stats }
    else cycles
  | _ => cycles

theorem readLine_metrics (metric : L2Metric) (party : L2Party) (traffic : L2Traffic)
    (recorded : CycleMetrics) (cycles : DeviceCycles) :
    cycles.readLine ((DemoReport.metrics metric party traffic recorded).line timestamp) =
      match traffic with
      | .send => { cycles with send := recorded.stats }
      | .receive => { cycles with receive := recorded.stats } := by
  have hdirection : traffic.item.word <:+:
      (DemoReport.metrics metric party traffic recorded).line timestamp := by
    apply word_infix_line
    simp [lineItems, items]
  unfold DeviceCycles.readLine
  cases traffic with
  | send =>
    change "direction=send".toList <:+: _ at hdirection
    rw [if_pos hdirection, parseCycleStats_line]
  | receive =>
    change "direction=receive".toList <:+: _ at hdirection
    rw [if_neg (not_infix_line (.metrics metric party .receive recorded) Shape.lacks_send),
      if_pos hdirection, parseCycleStats_line]

theorem readMarked_metrics (metric : L2Metric) (cycles : DeviceCycles) (timestamp : ℕ)
    (report : DemoReport) :
    (if metric.marker <:+: report.line timestamp then cycles.readLine (report.line timestamp)
      else cycles) = readCycles metric cycles report := by
  cases report with
  | metrics other party traffic recorded =>
    by_cases hother : other = metric
    · subst hother
      rw [if_pos (marker_metrics other), readLine_metrics]
      exact (if_pos rfl).symm
    · have hlacks : (Shape.metrics other party traffic).Lacks metric.marker :=
        Shape.lacks_metrics fun _ _ hsame => hother (Shape.metrics.inj hsame).1
      rw [if_neg (not_infix_line (.metrics other party traffic recorded) hlacks)]
      exact (if_neg hother).symm
  | _ =>
    apply if_neg
    apply not_infix_line
    exact Shape.lacks_metrics fun _ _ => Shape.noConfusion

/-! ## Missed cycles in the reports -/

/-- What a report is for the reader of the master's total. -/
def readMissed (total : UInt64) : DemoReport → UInt64
  | .missed reported => reported
  | _ => total

theorem Shape.lacks_missed {shape : Shape} (h : shape ≠ .missed) :
    shape.Lacks "L2 missed cycles component=master".toList := by
  cases shape with
  | control => exact ⟨[], 'L', by decide, by decide, rfl, by decide⟩
  | missed => exact absurd rfl h
  | status task => exact ⟨[], 'L', by decide, by decide, rfl, by cases task <;> decide⟩
  | metrics metric party traffic =>
    exact ⟨"misse".toList, 'd', by decide, by decide, rfl,
      by cases metric <;> cases party <;> cases traffic <;> decide⟩

theorem readMarked_missed (total : UInt64) (timestamp : ℕ) (report : DemoReport) :
    (if "L2 missed cycles component=master".toList <:+: report.line timestamp then
        readTotal "total".toList total (report.line timestamp) else total) =
      readMissed total report := by
  cases report with
  | missed reported =>
    have hmarker := @infix_line timestamp (.missed reported) _
      [wordItem "missed".toList, wordItem "cycles".toList, wordItem "component=master".toList] _ rfl
    have htotal : parseNumericFieldU64 ((DemoReport.missed reported).line timestamp)
        "total".toList = some reported := by
      rw [parseNumericFieldU64_line (by decide) _ reported.toNat_lt, UInt64.ofNat_toNat]
      rfl
    change "L2 missed cycles component=master".toList <:+: _ at hmarker
    rw [if_pos hmarker, readTotal, htotal]
    rfl
  | _ =>
    apply if_neg
    apply not_infix_line
    exact Shape.lacks_missed Shape.noConfusion

/-- What a report is for the reader of the slaves' missed cycles. -/
def readStatus (missed : UInt64 × UInt64) : DemoReport → UInt64 × UInt64
  | .status .temperature reported => (reported.missedCycles.toUInt64, missed.2)
  | .status .valve reported => (missed.1, reported.missedCycles.toUInt64)
  | _ => missed

theorem Shape.lacks_status {shape : Shape} {task : StatusTask} (h : shape ≠ .status task) :
    shape.Lacks task.marker := by
  cases task with
  | temperature =>
    refine ⟨[], 'T', by decide, by decide, rfl, ?_⟩
    cases shape with
    | control => decide
    | missed => decide
    | metrics metric party traffic => cases metric <;> cases party <;> cases traffic <;> decide
    | status task =>
      cases task with
      | temperature => exact absurd rfl h
      | valve => decide
  | valve =>
    refine ⟨[], 'V', by decide, by decide, rfl, ?_⟩
    cases shape with
    | control => decide
    | missed => decide
    | metrics metric party traffic => cases metric <;> cases party <;> cases traffic <;> decide
    | status task =>
      cases task with
      | temperature => decide
      | valve => exact absurd rfl h

theorem parse_missedCycles (task : StatusTask) (reported : StatusReport) :
    parseNumericFieldU64 ((DemoReport.status task reported).line timestamp)
      "missed_cycles".toList = some reported.missedCycles.toUInt64 := by
  have hfits : reported.missedCycles.toNat < 2 ^ 64 :=
    reported.missedCycles.toNat_lt.trans (by decide)
  rw [parseNumericFieldU64_line (by decide) (by cases task <;> rfl) hfits, Option.some.injEq]
  apply UInt64.toNat_inj.mp
  rw [UInt64.toNat_ofNat_of_lt' hfits, UInt32.toNat_toUInt64]

theorem marker_status (task : StatusTask) (reported : StatusReport) :
    task.marker <:+: (DemoReport.status task reported).line timestamp := by
  have hmarker := @infix_line timestamp (.status task reported) _
    [wordItem "status".toList, wordItem "update:".toList] _ rfl
  cases task <;> exact hmarker

theorem readSlaveMissedCycles_line (missed : UInt64 × UInt64) (timestamp : ℕ)
    (report : DemoReport) :
    readSlaveMissedCycles missed (report.line timestamp) = readStatus missed report := by
  have htemperature (h : report.shape ≠ .status .temperature) :
      ¬ "Temperature status update:".toList <:+: report.line timestamp :=
    not_infix_line report (Shape.lacks_status h)
  have hvalve (h : report.shape ≠ .status .valve) :
      ¬ "Valve status update:".toList <:+: report.line timestamp :=
    not_infix_line report (Shape.lacks_status h)
  unfold readSlaveMissedCycles
  cases report with
  -- the two tasks have lines of their own
  | status task reported =>
    have hmarker := @marker_status timestamp task reported
    cases task with
    | temperature =>
      change "Temperature status update:".toList <:+: _ at hmarker
      rw [if_pos hmarker, readTotal, parse_missedCycles]
      rfl
    | valve =>
      change "Valve status update:".toList <:+: _ at hmarker
      rw [if_neg (htemperature (by simp [shape])), if_pos hmarker, readTotal, parse_missedCycles]
      rfl
  -- any other line has neither marker
  | _ =>
    exact (if_neg (htemperature Shape.noConfusion)).trans (if_neg (hvalve Shape.noConfusion))

/-! ## The control loop in the reports -/

/-- What a report is for the reader of the control loop. -/
def readControl (s : ControlParser) : DemoReport → ControlParser
  | .control temperature valveOpen =>
    (s.readValve valveOpen).readTemperature temperature.toUInt64
  | _ => s

theorem Shape.lacks_control {shape : Shape} (h : shape ≠ .control) :
    shape.Lacks "Control loop:".toList := by
  cases shape with
  | control => exact absurd rfl h
  | missed => exact ⟨[], 'C', by decide, by decide, rfl, by decide⟩
  | status task => exact ⟨[], 'C', by decide, by decide, rfl, by cases task <;> decide⟩
  | metrics metric party traffic =>
    exact ⟨[], 'C', by decide, by decide, rfl,
      by cases metric <;> cases party <;> cases traffic <;> decide⟩

theorem readMarked_control (s : ControlParser) (timestamp : ℕ) (report : DemoReport) :
    (if "Control loop:".toList <:+: report.line timestamp then
        s.readLine (report.line timestamp) else s) = readControl s report := by
  cases report with
  -- the line of a control pass: marker, temperature, valve
  | control temperature valveOpen =>
    have hmarker := @infix_line timestamp (.control temperature valveOpen) _
      [wordItem "loop:".toList] _ rfl
    have hfits : temperature.toNat < 2 ^ 64 := temperature.toNat_lt.trans (by decide)
    have htemperature : parseNumericFieldU64
        ((DemoReport.control temperature valveOpen).line timestamp) "temperature".toList =
          some temperature.toUInt64 := by
      rw [parseNumericFieldU64_line (by decide) (by rfl) hfits, Option.some.injEq]
      apply UInt64.toNat_inj.mp
      rw [UInt64.toNat_ofNat_of_lt' hfits, UInt16.toNat_toUInt64]
    have hvalve : parseBoolField ((DemoReport.control temperature valveOpen).line timestamp)
        "valve_open".toList = some valveOpen := by
      rw [parseBoolField, line_eq]
      apply field_items (plain_lineItems _ _) _ rfl
      · cases valveOpen <;> decide
      · cases valveOpen <;> decide
      · intro key hmem
        exact key_eq_of_prefix .control _ (by decide) key (keys_lineItems _ _ hmem)
    change "Control loop:".toList <:+: _ at hmarker
    rw [if_pos hmarker, ControlParser.readLine, hvalve, htemperature]
    rfl
  -- no other line has the marker
  | _ =>
    apply if_neg
    apply not_infix_line
    exact Shape.lacks_control Shape.noConfusion

end DemoReport

/-! ## What the counts count -/

/-- How often the valve has turned, from its first opening on. -/
def valveTurns (states : List Bool) : ℕ := states.foldl (alternate id not) 0

/-- At most five degrees. -/
def atBottom (temperature : UInt16) : Bool := temperature ≤ 5

/-- At least 145 degrees. -/
def atTop (temperature : UInt16) : Bool := 145 ≤ temperature

/-- How often the temperature has turned, from its first time at the bottom on. -/
def temperatureTurns (temperatures : List UInt16) : ℕ :=
  temperatures.foldl (alternate atBottom atTop) 0

namespace ControlParser

/-- The parser has counted these turns. -/
structure Counted (s : ControlParser) (valve temperature : ℕ) : Prop where
  isOpen : s.previousValveState = some true ↔ valve % 2 = 1
  cycles : s.metrics.valveOpenCloseCycles.toNat = min (valve / 2) (2 ^ 64 - 1)
  phase : match s.temperaturePhase with
    | .waitingAtZero => temperature = 0
    | .rising => temperature % 2 = 1
    | .falling => temperature % 2 = 0 ∧ temperature ≠ 0
  waves : s.metrics.temperatureWaveIterations.toNat = min ((temperature - 1) / 2) (2 ^ 64 - 1)

theorem counted_start : start.Counted 0 0 where
  isOpen := by decide
  cycles := rfl
  phase := rfl
  waves := rfl

theorem Counted.readValve {s : ControlParser} {valve temperature : ℕ}
    (h : s.Counted valve temperature) (valveOpen : Bool) :
    (s.readValve valveOpen).Counted (alternate id not valve valveOpen) temperature := by
  rcases Nat.mod_two_eq_zero_or_one valve with hturn | hturn
  -- the valve was closed
  · have hclosed : s.previousValveState ≠ some true := by
      rw [Ne, h.isOpen]
      omega
    have hmetrics : (s.readValve valveOpen).metrics = s.metrics :=
      if_neg (fun hcloses => hclosed hcloses.1)
    cases valveOpen with
    | false =>
      have hsame : alternate id not valve false = valve := by simp [alternate, hturn]
      rw [hsame]
      refine ⟨?_, by rw [hmetrics]; exact h.cycles, h.phase, by rw [hmetrics]; exact h.waves⟩
      exact iff_of_false (by rintro ⟨⟩) (by omega)
    | true =>
      have hopens : alternate id not valve true = valve + 1 := by simp [alternate, hturn]
      rw [hopens]
      refine ⟨iff_of_true rfl (by omega), ?_, h.phase, by rw [hmetrics]; exact h.waves⟩
      rw [hmetrics, h.cycles]
      omega
  -- the valve was open
  · have hopen : s.previousValveState = some true := h.isOpen.mpr hturn
    cases valveOpen with
    | false =>
      have hcloses : alternate id not valve false = valve + 1 := by simp [alternate, hturn]
      have hmetrics : (s.readValve false).metrics =
          { s.metrics with
            valveOpenCloseCycles := saturatingAdd s.metrics.valveOpenCloseCycles 1 } :=
        if_pos ⟨hopen, rfl⟩
      rw [hcloses]
      refine ⟨iff_of_false (by rintro ⟨⟩) (by omega), ?_, h.phase, by rw [hmetrics]; exact h.waves⟩
      rw [hmetrics, toNat_saturatingAdd, h.cycles, UInt64.toNat_one]
      omega
    | true =>
      have hsame : alternate id not valve true = valve := by simp [alternate, hturn]
      have hmetrics : (s.readValve true).metrics = s.metrics := if_neg (by rintro ⟨-, ⟨⟩⟩)
      rw [hsame]
      exact ⟨iff_of_true rfl hturn, by rw [hmetrics]; exact h.cycles, h.phase,
        by rw [hmetrics]; exact h.waves⟩

theorem toUInt64_le_iff (reading : UInt16) : reading.toUInt64 ≤ 5 ↔ atBottom reading = true := by
  rw [atBottom, decide_eq_true_iff, UInt64.le_iff_toNat_le, UInt16.le_iff_toNat_le,
    UInt16.toNat_toUInt64]
  rfl

theorem le_toUInt64_iff (reading : UInt16) : reading.toUInt64 ≥ 145 ↔ atTop reading = true := by
  rw [atTop, decide_eq_true_iff, ge_iff_le, UInt64.le_iff_toNat_le, UInt16.le_iff_toNat_le,
    UInt16.toNat_toUInt64]
  rfl

theorem Counted.readTemperature {s : ControlParser} {valve temperature : ℕ}
    (h : s.Counted valve temperature) (reading : UInt16) :
    (s.readTemperature reading.toUInt64).Counted valve
      (alternate atBottom atTop temperature reading) := by
  have hphase := h.phase
  unfold ControlParser.readTemperature
  cases hcase : s.temperaturePhase with
  -- before the first wave only the bottom counts
  | waitingAtZero =>
    simp only [hcase] at hphase ⊢
    subst hphase
    cases hbottom : atBottom reading with
    | false =>
      have hsame : alternate atBottom atTop 0 reading = 0 := by simp [alternate, hbottom]
      rw [if_neg (by rw [toUInt64_le_iff, hbottom]; exact Bool.false_ne_true), hsame]
      exact h
    | true =>
      have hturns : alternate atBottom atTop 0 reading = 1 := by simp [alternate, hbottom]
      rw [if_pos ((toUInt64_le_iff reading).mpr hbottom), hturns]
      exact ⟨h.isOpen, h.cycles, rfl, h.waves⟩
  -- after an odd number of turns the top is awaited
  | rising =>
    simp only [hcase] at hphase ⊢
    cases htop : atTop reading with
    | false =>
      have hsame : alternate atBottom atTop temperature reading = temperature := by
        simp [alternate, hphase, htop]
      rw [if_neg (by rw [le_toUInt64_iff, htop]; exact Bool.false_ne_true), hsame]
      exact h
    | true =>
      have hturns : alternate atBottom atTop temperature reading = temperature + 1 := by
        simp [alternate, hphase, htop]
      rw [if_pos ((le_toUInt64_iff reading).mpr htop), hturns]
      refine ⟨h.isOpen, h.cycles, ?_, ?_⟩
      · change (temperature + 1) % 2 = 0 ∧ temperature + 1 ≠ 0
        omega
      · rw [h.waves]
        omega
  -- after an even number the bottom is, and a wave ends there
  | falling =>
    simp only [hcase] at hphase ⊢
    cases hbottom : atBottom reading with
    | false =>
      have hsame : alternate atBottom atTop temperature reading = temperature := by
        simp [alternate, hphase.1, hbottom]
      rw [if_neg (by rw [toUInt64_le_iff, hbottom]; exact Bool.false_ne_true), hsame]
      exact h
    | true =>
      have hturns : alternate atBottom atTop temperature reading = temperature + 1 := by
        simp [alternate, hphase.1, hbottom]
      rw [if_pos ((toUInt64_le_iff reading).mpr hbottom), hturns]
      refine ⟨h.isOpen, h.cycles, ?_, ?_⟩
      · change (temperature + 1) % 2 = 1
        omega
      · rw [toNat_saturatingAdd, h.waves, UInt64.toNat_one]
        omega

/-- What the parser has counted behind a list of passes. -/
theorem counted_foldl (passes : List (UInt16 × Bool)) :
    (passes.foldl (fun s pass => (s.readValve pass.2).readTemperature pass.1.toUInt64)
      start).Counted (valveTurns (passes.map Prod.snd))
        (temperatureTurns (passes.map Prod.fst)) := by
  induction passes using List.reverseRecOn with
  | nil => exact counted_start
  | append_singleton passes pass ih =>
    rw [List.foldl_append, List.foldl_cons, List.foldl_nil, List.map_append, List.map_append,
      valveTurns, temperatureTurns, List.foldl_append, List.foldl_append]
    exact (ih.readValve pass.2).readTemperature pass.1

end ControlParser

/-! ## Logs of the demo -/

/-- A log with the reports in it. -/
def logOf (entries : List (LogEntry (ℕ × DemoReport))) : List Char :=
  logText (fun entry => entry.2.line entry.1) entries

/-- The reports in a log. -/
def reportsOf (entries : List (LogEntry (ℕ × DemoReport))) : List DemoReport :=
  (entries.filterMap LogEntry.reported).map Prod.snd

/-- What the readers look for. -/
def markers : List (List Char) :=
  [L2Metric.cycle.marker, L2Metric.jitter.marker, "L2 missed cycles component=master".toList,
    StatusTask.temperature.marker, StatusTask.valve.marker, "Control loop:".toList]

/-- No other text has a marker. -/
def Unmarked (entries : List (LogEntry (ℕ × DemoReport))) : Prop :=
  ∀ text, .other text ∈ entries → ∀ marker ∈ markers, ¬ marker <:+: text

section Logs

variable {entries : List (LogEntry (ℕ × DemoReport))} {σ : Type*}

theorem foldl_lines_logOf {read : σ → List Char → σ} {spec : σ → DemoReport → σ}
    (hread : ∀ s timestamp report, read s (DemoReport.line timestamp report) = spec s report)
    (hother : ∀ text, .other text ∈ entries → ∀ line, line <:+: text → ∀ s, read s line = s)
    (s : σ) : (lines (logOf entries)).foldl read s = (reportsOf entries).foldl spec s := by
  rw [logOf, foldl_lines_logText (fun entry => entry.2.oneLine entry.1) hother, reportsOf,
    List.foldl_map]
  congr 1
  funext s entry
  exact hread s entry.1 entry.2

theorem readMarked_logOf {marker : List Char} (hmarker : marker ∈ markers)
    {read : σ → List Char → σ} {spec : σ → DemoReport → σ}
    (hread : ∀ s timestamp report,
      (if marker <:+: DemoReport.line timestamp report then
        read s (DemoReport.line timestamp report) else s) = spec s report)
    (h : Unmarked entries) (s : σ) :
    readMarked marker read (logOf entries) s = (reportsOf entries).foldl spec s := by
  apply foldl_lines_logOf hread
  intro text hmem line hline s
  exact if_neg fun hmarked => h text hmem marker hmarker (hmarked.trans hline)

/-! ### What the summary says -/

/-- The metrics in a report of an L2 thread. -/
def DemoReport.recorded (metric : L2Metric) (traffic : L2Traffic) :
    DemoReport → Option CycleMetrics
  | .metrics other _ otherTraffic recorded =>
    if other = metric ∧ otherTraffic = traffic then some recorded else none
  | _ => none

/-- The statistics that were reported last. -/
def lastStats (metric : L2Metric) (traffic : L2Traffic) (reports : List DemoReport) :
    Option CycleStats :=
  (reports.filterMap (DemoReport.recorded metric traffic)).getLast?.bind CycleMetrics.stats

/-- The statistics that were reported last for both directions. -/
def lastCycles (metric : L2Metric) (reports : List DemoReport) : DeviceCycles :=
  { send := lastStats metric .send reports
    receive := lastStats metric .receive reports }

/-- The total of the master. -/
def DemoReport.missedTotal : DemoReport → Option UInt64
  | .missed total => some total
  | _ => none

/-- The missed cycles in a status. -/
def DemoReport.missedCycles (task : StatusTask) : DemoReport → Option UInt64
  | .status other reported => if other = task then some reported.missedCycles.toUInt64 else none
  | _ => none

/-- The number that was reported last, or zero. -/
def lastReported (number : DemoReport → Option UInt64) (reports : List DemoReport) : UInt64 :=
  (reports.filterMap number).getLast?.getD 0

/-- The passes of the control loop. -/
def DemoReport.pass : DemoReport → Option (UInt16 × Bool)
  | .control temperature valveOpen => some (temperature, valveOpen)
  | _ => none

/-- A count that stops at its largest value. -/
def saturated (n : ℕ) : UInt64 := UInt64.ofNat (min n (2 ^ 64 - 1))

theorem toNat_saturated (n : ℕ) : (saturated n).toNat = min n (2 ^ 64 - 1) :=
  UInt64.toNat_ofNat_of_lt' ((min_le_right n _).trans_lt (by decide))

theorem eq_saturated {x : UInt64} {n : ℕ} (h : x.toNat = min n (2 ^ 64 - 1)) : x = saturated n := by
  rw [saturated, ← h, UInt64.ofNat_toNat]

/-- What the control loop has gone through. -/
def controlMetricsOf (passes : List (UInt16 × Bool)) : MasterControlMetrics :=
  { valveOpenCloseCycles := saturated (valveTurns (passes.map Prod.snd) / 2)
    temperatureWaveIterations := saturated ((temperatureTurns (passes.map Prod.fst) - 1) / 2) }

theorem foldl_readCycles (metric : L2Metric) (reports : List DemoReport) :
    reports.foldl (DemoReport.readCycles metric) ⟨none, none⟩ = lastCycles metric reports := by
  induction reports using List.reverseRecOn with
  | nil => rfl
  | append_singleton reports report ih =>
    rw [List.foldl_append, ih, List.foldl_cons, List.foldl_nil]
    cases report with
    | metrics other party traffic recorded =>
      by_cases hother : other = metric
      · cases traffic <;>
          simp [DemoReport.readCycles, lastCycles, lastStats, DemoReport.recorded,
            List.filterMap_append, hother]
      · simp [DemoReport.readCycles, lastCycles, lastStats, DemoReport.recorded,
          List.filterMap_append, hother]
    | _ => simp [DemoReport.readCycles, lastCycles, lastStats, DemoReport.recorded]

theorem foldl_readMissed (reports : List DemoReport) :
    reports.foldl DemoReport.readMissed 0 = lastReported DemoReport.missedTotal reports := by
  induction reports using List.reverseRecOn with
  | nil => rfl
  | append_singleton reports report ih =>
    rw [List.foldl_append, ih, List.foldl_cons, List.foldl_nil]
    cases report <;> simp [DemoReport.readMissed, lastReported, DemoReport.missedTotal]

theorem foldl_readStatus (reports : List DemoReport) :
    reports.foldl DemoReport.readStatus (0, 0) =
      (lastReported (DemoReport.missedCycles .temperature) reports,
        lastReported (DemoReport.missedCycles .valve) reports) := by
  induction reports using List.reverseRecOn with
  | nil => rfl
  | append_singleton reports report ih =>
    rw [List.foldl_append, ih, List.foldl_cons, List.foldl_nil]
    cases report with
    | status task reported =>
      cases task <;> simp [DemoReport.readStatus, lastReported, DemoReport.missedCycles]
    | _ => simp [DemoReport.readStatus, lastReported, DemoReport.missedCycles]

theorem foldl_readControl (reports : List DemoReport) (s : ControlParser) :
    reports.foldl DemoReport.readControl s = (reports.filterMap DemoReport.pass).foldl
      (fun s pass => (s.readValve pass.2).readTemperature pass.1.toUInt64) s := by
  induction reports generalizing s with
  | nil => rfl
  | cons report reports ih =>
    rw [List.foldl_cons, ih]
    cases report <;> rfl

theorem parseDeviceMetrics_logOf (metric : L2Metric) (h : Unmarked entries) :
    parseDeviceMetrics metric (logOf entries) = lastCycles metric (reportsOf entries) := by
  have hmarker : metric.marker ∈ markers := by cases metric <;> simp [markers]
  rw [parseDeviceMetrics, readMarked_logOf hmarker (DemoReport.readMarked_metrics metric) h,
    foldl_readCycles]

theorem parseMasterMissedCycles_logOf (h : Unmarked entries) :
    parseMasterMissedCycles (logOf entries) =
      lastReported DemoReport.missedTotal (reportsOf entries) := by
  rw [parseMasterMissedCycles,
    readMarked_logOf (by simp [markers]) DemoReport.readMarked_missed h, foldl_readMissed]

theorem parseSlaveMissedCycles_logOf (h : Unmarked entries) :
    parseSlaveMissedCycles (logOf entries) =
      (lastReported (DemoReport.missedCycles .temperature) (reportsOf entries),
        lastReported (DemoReport.missedCycles .valve) (reportsOf entries)) := by
  rw [parseSlaveMissedCycles, foldl_lines_logOf DemoReport.readSlaveMissedCycles_line,
    foldl_readStatus]
  intro text hmem line hline missed
  have hlacks {task : StatusTask} (hmarker : task.marker ∈ markers) : ¬ task.marker <:+: line :=
    fun hmarked => h text hmem task.marker hmarker (hmarked.trans hline)
  have htemperature : ¬ "Temperature status update:".toList <:+: line :=
    @hlacks .temperature (by simp [markers])
  have hvalve : ¬ "Valve status update:".toList <:+: line := @hlacks .valve (by simp [markers])
  exact (if_neg htemperature).trans (if_neg hvalve)

theorem parseControlMetrics_logOf (h : Unmarked entries) :
    parseControlMetrics (logOf entries) =
      controlMetricsOf ((reportsOf entries).filterMap DemoReport.pass) := by
  rw [parseControlMetrics, readMarked_logOf (by simp [markers]) DemoReport.readMarked_control h,
    foldl_readControl]
  have hcounted := ControlParser.counted_foldl ((reportsOf entries).filterMap DemoReport.pass)
  exact congrArg₂ MasterControlMetrics.mk (eq_saturated hcounted.cycles)
    (eq_saturated hcounted.waves)

end Logs

/-- **The summary is read back from the logs.** Whatever the order of the reports and whatever
else is in the logs, the summary shows the statistics of the threads that ended last, the missed
cycles reported last, and how often the logged passes of the control loop have closed the valve
again and brought the temperature back to the bottom. -/
theorem runPostRunLogAnalysis_log {master temperature valve : List (LogEntry (ℕ × DemoReport))}
    (hmaster : Unmarked master) (htemperature : Unmarked temperature) (hvalve : Unmarked valve) :
    runPostRunLogAnalysis (logOf master) (logOf temperature) (logOf valve) =
      { controlMetrics := controlMetricsOf ((reportsOf master).filterMap DemoReport.pass)
        masterCycles := lastCycles .cycle (reportsOf master)
        temperatureCycles := lastCycles .cycle (reportsOf temperature)
        valveCycles := lastCycles .cycle (reportsOf valve)
        masterJitter := lastCycles .jitter (reportsOf master)
        temperatureJitter := lastCycles .jitter (reportsOf temperature)
        valveJitter := lastCycles .jitter (reportsOf valve)
        masterMissedCycles := lastReported DemoReport.missedTotal (reportsOf master)
        slaveMissedCycles :=
          (lastReported (DemoReport.missedCycles .temperature) (reportsOf master),
            lastReported (DemoReport.missedCycles .valve) (reportsOf master)) } := by
  simp only [runPostRunLogAnalysis, parseDeviceCycles, parseDeviceJitter,
    parseDeviceMetrics_logOf _ hmaster, parseDeviceMetrics_logOf _ htemperature,
    parseDeviceMetrics_logOf _ hvalve, parseMasterMissedCycles_logOf hmaster,
    parseSlaveMissedCycles_logOf hmaster, parseControlMetrics_logOf hmaster]

/-- The master's log of a short demo. -/
def shortLog : List (LogEntry (ℕ × DemoReport)) :=
  [.other "1 [INFO] [demo] L2 handler started".toList, .report (2, .control 120 true),
    .report (3, .status .valve ⟨4, 0, 7, ⟨0, 0, 0⟩, ⟨0, 0, 0⟩⟩), .report (4, .control 90 false),
    .report (5, .metrics .cycle .master .send ⟨some 900, some 1100, 3000, 3⟩),
    .report (5, .metrics .jitter .master .send ⟨some 1, some 9, 10, 2⟩),
    .report (6, .metrics .cycle .master .receive .default), .report (6, .missed 5)]

/-- The log of a slave whose L2 handler has run twice. -/
def restartedLog : List (LogEntry (ℕ × DemoReport)) :=
  [.report (5, .metrics .cycle .slave .receive ⟨some 950, some 1050, 2000, 2⟩),
    .report (9, .metrics .cycle .slave .receive ⟨some 800, some 1200, 4100, 4⟩)]

theorem unmarked_shortLog : Unmarked shortLog := by
  intro text hmem
  simp only [shortLog, List.mem_cons, List.not_mem_nil, or_false, reduceCtorEq,
    LogEntry.other.injEq] at hmem
  subst hmem
  decide +kernel

theorem runPostRunLogAnalysis_log_short :
    runPostRunLogAnalysis (logOf shortLog) (logOf []) (logOf restartedLog) =
      { controlMetrics := ⟨1, 0⟩
        masterCycles := ⟨some ⟨900, 1100, 1000⟩, none⟩
        temperatureCycles := ⟨none, none⟩
        valveCycles := ⟨none, some ⟨800, 1200, 1025⟩⟩
        masterJitter := ⟨some ⟨1, 9, 5⟩, none⟩
        temperatureJitter := ⟨none, none⟩
        valveJitter := ⟨none, none⟩
        masterMissedCycles := 5
        slaveMissedCycles := (0, 7) } := by
  have hempty : Unmarked [] := fun text hmem => absurd hmem List.not_mem_nil
  have hrestarted : Unmarked restartedLog := by
    intro text hmem
    simp [restartedLog] at hmem
  exact (runPostRunLogAnalysis_log unmarked_shortLog hempty hrestarted).trans (by decide)

/-! ## What the control loop logs -/

/-- The reports of the control loop: a pass is logged if something has changed since the last
report. -/
def controlReports (previousTemperature : UInt16) (previousValveState : Bool) :
    List UInt16 → List (UInt16 × Bool)
  | [] => []
  | temperature :: rest =>
    let valveOpen := valveOpen temperature
    if previousTemperature ≠ temperature ∨ previousValveState ≠ valveOpen then
      (temperature, valveOpen) :: controlReports temperature valveOpen rest
    else controlReports previousTemperature previousValveState rest

/-- Leaving out repetitions does not change a measure that ignores them. -/
theorem foldl_controlReports {π : Type*} {step : π → UInt16 → π}
    (hrepeat : ∀ p x, step (step p x) x = step p x) (temperatures : List UInt16)
    {previous : UInt16} {p : π} (hp : step p previous = p) :
    ((controlReports previous (valveOpen previous) temperatures).map Prod.fst).foldl step p =
      temperatures.foldl step p := by
  induction temperatures generalizing previous p with
  | nil => rfl
  | cons temperature rest ih =>
    unfold controlReports
    dsimp only
    by_cases hsame : previous = temperature
    · subst hsame
      rw [if_neg (by simp), List.foldl_cons, hp]
      exact ih hp
    · rw [if_pos (.inl hsame), List.map_cons, List.foldl_cons, List.foldl_cons]
      exact ih (hrepeat p temperature)

/-- The logged decisions are those of the logged temperatures. -/
theorem snd_controlReports (previous : UInt16) (temperatures : List UInt16) :
    (controlReports previous (valveOpen previous) temperatures).map Prod.snd =
      ((controlReports previous (valveOpen previous) temperatures).map Prod.fst).map valveOpen := by
  induction temperatures generalizing previous with
  | nil => rfl
  | cons temperature rest ih =>
    unfold controlReports
    dsimp only
    split
    · simp only [List.map_cons]
      rw [ih temperature]
    · exact ih previous

/-- Zeros before the first other temperature are not logged. -/
theorem controlReports_dropWhile (temperatures : List UInt16) :
    controlReports 0 (valveOpen 0) (temperatures.dropWhile (· = 0)) =
      controlReports 0 (valveOpen 0) temperatures := by
  induction temperatures with
  | nil => rfl
  | cons temperature rest ih =>
    by_cases hzero : temperature = 0
    · subst hzero
      rw [List.dropWhile_cons_of_pos (by simp), ih]
      conv_rhs => unfold controlReports
      exact (if_neg (by simp)).symm
    · rw [List.dropWhile_cons_of_neg (by simpa using hzero)]

/-- No temperature is at the bottom and at the top. -/
theorem not_atBottom_and_atTop (temperature : UInt16) :
    ¬ (atBottom temperature = true ∧ atTop temperature = true) := by
  rintro ⟨hbottom, htop⟩
  have hlow : temperature ≤ 5 := of_decide_eq_true hbottom
  have hhigh : 145 ≤ temperature := of_decide_eq_true htop
  exact absurd (UInt16.le_trans hhigh hlow) (by decide)

/-- The valve turns in the log are all that the control loop has decided. -/
theorem valveTurns_controlReports (temperatures : List UInt16) :
    valveTurns ((controlReports 0 (valveOpen 0) temperatures).map Prod.snd) =
      valveTurns (temperatures.map valveOpen) := by
  have hrepeat (turns : ℕ) (temperature : UInt16) :
      alternate id not (alternate id not turns (valveOpen temperature)) (valveOpen temperature) =
        alternate id not turns (valveOpen temperature) := by
    apply alternate_alternate
    cases valveOpen temperature <;> decide
  have hturns (ts : List UInt16) : valveTurns (ts.map valveOpen) =
      ts.foldl (fun turns temperature => alternate id not turns (valveOpen temperature)) 0 :=
    List.foldl_map
  rw [snd_controlReports, hturns, hturns]
  exact foldl_controlReports hrepeat temperatures (by decide)

/-- The temperature turns in the log are all that the control loop has read, from the first
temperature that is not zero on. -/
theorem temperatureTurns_controlReports (temperatures : List UInt16) :
    temperatureTurns ((controlReports 0 (valveOpen 0) temperatures).map Prod.fst) =
      temperatureTurns (temperatures.dropWhile (· = 0)) := by
  -- a temperature that is read again turns nothing
  have hrepeat (turns : ℕ) (temperature : UInt16) :
      alternate atBottom atTop (alternate atBottom atTop turns temperature) temperature =
        alternate atBottom atTop turns temperature :=
    alternate_alternate (not_atBottom_and_atTop temperature) turns
  rw [← controlReports_dropWhile]
  cases hread : temperatures.dropWhile (· = 0) with
  | nil => rfl
  | cons temperature rest =>
    -- the first one logged differs from the initial zero
    have hne : (0 : UInt16) ≠ temperature := by
      rintro rfl
      have hhead := List.head_dropWhile_not (fun t : UInt16 => decide (t = 0))
        (l := temperatures) (by simp [hread])
      simp [hread] at hhead
    unfold controlReports
    dsimp only
    rw [if_pos (.inl hne), List.map_cons, temperatureTurns, temperatureTurns, List.foldl_cons,
      List.foldl_cons]
    exact foldl_controlReports hrepeat rest (hrepeat 0 temperature)


/-- **Control metrics are read back from the log.** Whatever else is in the master's log, the
summary counts how often the control loop has closed the valve again, and how often the
temperature that it has read went up and came back to the bottom; zeros at the beginning are not
the bottom. -/
theorem parseControlMetrics_log {entries : List (LogEntry (ℕ × DemoReport))}
    {temperatures : List UInt16} (h : Unmarked entries)
    (hpasses : (reportsOf entries).filterMap DemoReport.pass =
      controlReports 0 false temperatures) :
    parseControlMetrics (logOf entries) =
      { valveOpenCloseCycles := saturated (valveTurns (temperatures.map valveOpen) / 2)
        temperatureWaveIterations :=
          saturated ((temperatureTurns (temperatures.dropWhile (· = 0)) - 1) / 2) } := by
  have hstart : valveOpen 0 = false := by decide
  rw [parseControlMetrics_logOf h, hpasses, controlMetricsOf, ← hstart, valveTurns_controlReports,
    temperatureTurns_controlReports]

/-- The valve closes twice, but the first wave began before the first line. -/
theorem parseControlMetrics_log_warming :
    parseControlMetrics (logOf
      [.report (1, .control 60 false), .report (2, .control 150 true),
        .report (3, .control 120 true), .report (4, .control 3 false),
        .report (5, .control 150 true), .report (6, .control 5 false)]) =
      { valveOpenCloseCycles := 2, temperatureWaveIterations := 1 } := by
  refine (@parseControlMetrics_log _ [0, 0, 60, 150, 150, 120, 3, 150, 5] ?_ (by decide)).trans ?_
  · intro text hmem
    simp at hmem
  · decide

/-! ## The summary of a run -/

namespace Plant

variable {blake3 : KeyedHash} {secret : Secret} {masterMac valveMac : MacAddr}
  {other : TaggedMessages}

/-- **The summary never exaggerates.** In every run of the demo plant, whatever the stations take
from the segment and whatever else is in the logs, the summary counts at most as many valve
cycles and temperature waves as the readings of the sensor have gone through. -/
theorem summary_within_sensed {events : List PlantEvent} {plant : Plant}
    (hrun : execute (step blake3) (start secret masterMac valveMac) events = some plant)
    (hforge : EveryStep (step blake3) (Unforged blake3 other) (start secret masterMac valveMac)
      events)
    {master : List (LogEntry (ℕ × DemoReport))} (hmaster : Unmarked master)
    (hpasses : (reportsOf master).filterMap DemoReport.pass =
      controlReports 0 false plant.controlled.tail)
    (temperatureContent valveContent : List Char) :
    (runPostRunLogAnalysis (logOf master) temperatureContent
        valveContent).controlMetrics.valveOpenCloseCycles.toNat ≤
        valveTurns (plant.sensed.map valveOpen) / 2 ∧
      (runPostRunLogAnalysis (logOf master) temperatureContent
        valveContent).controlMetrics.temperatureWaveIterations.toNat ≤
        (temperatureTurns plant.sensed - 1) / 2 := by
  have hrelayed := execute_invariant_of_guarded relayed_step relayed_start hforge hrun
  -- the control loop has seen a selection of the readings, after its initial value
  have hread : Samples plant.controlled.tail plant.sensed := by
    have hcontrolled := hrelayed.controlled_samples_sensed
    cases hlist : plant.controlled with
    | nil => exact .nil _
    | cons temperature temperatures =>
      rw [hlist] at hcontrolled
      exact hcontrolled.tail
  have hvalve : valveTurns (plant.controlled.tail.map valveOpen) ≤
      valveTurns (plant.sensed.map valveOpen) :=
    alternations_le_of_samples (by decide) (hread.map valveOpen)
  -- leading zeros are not logged, which only shortens the selection
  have hlogged : Samples (plant.controlled.tail.dropWhile (· = 0)) plant.sensed :=
    (Samples.of_sublist (List.dropWhile_sublist _)).trans hread
  have htemperature : temperatureTurns (plant.controlled.tail.dropWhile (· = 0)) ≤
      temperatureTurns plant.sensed :=
    alternations_le_of_samples not_atBottom_and_atTop hlogged
  -- turns of a selection are at most the turns of the whole
  rw [runPostRunLogAnalysis, parseControlMetrics_log hmaster hpasses, toNat_saturated,
    toNat_saturated]
  omega

/-- The second reading of the sensor in the demo. -/
def cooledFrame : Frame :=
  buildL2Frame .zero .zero (buildVlanTag 100 6) (.new temperatureStreamId.toUInt16 1 0) [0, 90]
    ⟨2, tagOf checksumHash zeroSecret
      (signedL2Bytes (.new temperatureStreamId.toUInt16 1 0) [0, 90] 2)⟩

/-- The sensor heats up and cools down, and the control loop sees both. -/
def cooledRun : List PlantEvent :=
  [.control, .sense 120, .send .temperature .op .zero 0 (temperatureStream .zero .output),
    .receive .master .op (firstFrame .zero temperatureStreamId [0, 120]), .control, .control,
    .sense 90, .send .temperature .op .zero 1 (temperatureStream .zero .output),
    .receive .master .op cooledFrame, .control]

/-- One valve cycle is counted, as the sensor has gone through one. -/
theorem summary_within_sensed_cooled :
    ∃ plant,
      execute (step checksumHash) (start zeroSecret .zero valveSlaveMac) cooledRun = some plant ∧
      valveTurns (plant.sensed.map valveOpen) / 2 = 1 ∧
      ((runPostRunLogAnalysis (logOf shortLog) [] []).controlMetrics.valveOpenCloseCycles.toNat ≤
          valveTurns (plant.sensed.map valveOpen) / 2 ∧
        (runPostRunLogAnalysis (logOf shortLog) []
            []).controlMetrics.temperatureWaveIterations.toNat ≤
          (temperatureTurns plant.sensed - 1) / 2) := by
  have hends : (execute (step checksumHash) (start zeroSecret .zero valveSlaveMac) cooledRun).map
      (fun plant => (plant.controlled, plant.sensed)) =
        some ([0, 0, 120, 120, 90], [0, 120, 90]) := by
    decide +kernel
  have hforwarded : EveryStep (step checksumHash) Forwarded (start zeroSecret .zero valveSlaveMac)
      cooledRun := by decide +kernel
  obtain ⟨plant, hrun, hhistory⟩ := Option.map_eq_some_iff.mp hends
  obtain ⟨hcontrolled, hsensed⟩ := Prod.mk.inj hhistory
  have hpasses : (reportsOf shortLog).filterMap DemoReport.pass =
      controlReports 0 false plant.controlled.tail := by
    rw [hcontrolled]
    decide
  refine ⟨plant, hrun, by rw [hsensed]; decide, ?_⟩
  exact @summary_within_sensed checksumHash zeroSecret .zero valveSlaveMac ⟨[], [], by simp⟩ _ _
    hrun (hforwarded.imp fun _ _ => Forwarded.unforged) _ unmarked_shortLog hpasses [] []

end Plant

end TsnFieldbus
