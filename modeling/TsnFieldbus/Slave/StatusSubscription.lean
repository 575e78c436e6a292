import Mathlib.Data.List.DropRight
import TsnFieldbus.Slave.StatusUpdates

/-!
# Status Subscription

`subscribe_to_device_status`: the task that passes broadcast statuses on to one subscriber,
among the steps of concurrent status updates. The subscriber's channels are never full, lagging
or closed.

- `StatusSubscription.step`: one step of the task or of an update.
- `announcedAt`: the status that announced the fault in which a list of statuses ends.
- `forwarded_through_fault_iff`: when a task that stops has passed that status on.
-/

namespace TsnFieldbus

open Foundations

/-- `MIN_INTERVAL_SEC_STATUS_PUBLISH`. -/
abbrev minIntervalSecStatusPublish : UInt32 := 60

/-- The interval of the periodic publications, if the subscriber asks for them. -/
def publishInterval (minIntervalSec : Option UInt32) : Option UInt32 :=
  minIntervalSec.map fun minIntervalSec =>
    if minIntervalSec < 10 then minIntervalSecStatusPublish else minIntervalSec

/-- `state == Error || state == Shutdown`. -/
def DeviceStatus.inFault (status : DeviceStatus) : Bool :=
  status.state = .error || status.state = .shutdown

/-- A status on the subscriber's stream. -/
inductive Publication where
  /-- Taken from the broadcast channel. -/
  | update (status : DeviceStatus)
  /-- Read from the store when the interval fired. -/
  | periodic (status : DeviceStatus)
deriving DecidableEq

/-- How far the publish task is. -/
inductive PublishPhase where
  | unsubscribed
  /-- Before `get_status` at the head of the loop. -/
  | checking
  /-- In `select!`. -/
  | selecting
  /-- The interval has fired; before `get_status`. -/
  | reading
  /-- Before `sender.send`. -/
  | sending (publication : Publication)
  /-- Ended by the check of the state, when these statuses had been broadcast. -/
  | terminated (sent : List DeviceStatus)
deriving DecidableEq

/-- The store with its callers, and the task. The broadcasts before `subscribed` were sent before
the subscription, those from `received` on are in the channel. -/
structure StatusSubscription (ι : Type*) where
  run : UpdateRun ι
  interval : Option UInt32
  subscribed : ℕ
  received : ℕ
  phase : PublishPhase
  published : List Publication

/-- The next step of an update or of the task. -/
inductive SubscriptionEvent (ι : Type*) where
  | update (event : UpdateEvent ι)
  | subscribe (minIntervalSec : Option UInt32)
  | check
  | receive
  | tick
  | read
  | send

namespace StatusSubscription

variable {ι : Type*}

/-- A new store without callers and subscriber. -/
def start (timestamp : UInt64) : StatusSubscription ι :=
  { run := .start timestamp
    interval := none
    subscribed := 0
    received := 0
    phase := .unsubscribed
    published := [] }

/-- The statuses sent to all subscribers so far. -/
abbrev broadcasts (s : StatusSubscription ι) : List DeviceStatus := s.run.store.broadcasts

/-- The effect of one step. `get_status` waits for the writer. -/
def step [DecidableEq ι] (s : StatusSubscription ι) :
    SubscriptionEvent ι → Option (StatusSubscription ι)
  | .update event => (s.run.step event).map fun run => { s with run := run }
  | .subscribe minIntervalSec =>
    match s.phase with
    | .unsubscribed =>
      some
        { s with
          interval := publishInterval minIntervalSec
          subscribed := s.broadcasts.length
          received := s.broadcasts.length
          phase := .checking }
    | _ => none
  | .check =>
    match s.phase, s.run.writer with
    | .checking, none =>
      some
        { s with phase :=
            if s.run.store.current.inFault then .terminated s.broadcasts else .selecting }
    | _, _ => none
  | .receive =>
    match s.phase, s.broadcasts[s.received]? with
    | .selecting, some status =>
      some { s with received := s.received + 1, phase := .sending (.update status) }
    | _, _ => none
  | .tick =>
    match s.phase, s.interval with
    | .selecting, some _ => some { s with phase := .reading }
    | _, _ => none
  | .read =>
    match s.phase, s.run.writer with
    | .reading, none => some { s with phase := .sending (.periodic s.run.store.current) }
    | _, _ => none
  | .send =>
    match s.phase with
    | .sending publication =>
      some { s with published := s.published ++ [publication], phase := .checking }
    | _ => none

end StatusSubscription

/-! ## The announcement of a fault -/

/-- The position of the first of the fault statuses at the end of the list. -/
def announcedAt (statuses : List DeviceStatus) : ℕ :=
  (statuses.rdropWhile DeviceStatus.inFault).length

/-- If the last status is in fault, the one at `announcedAt` is the announcement: it and all later
ones are in fault, and the one before it is not. -/
theorem announcedAt_spec {statuses : List DeviceStatus} {last : DeviceStatus}
    (hlast : statuses.getLast? = some last) (hfault : last.inFault) :
    announcedAt statuses < statuses.length ∧
      (∀ status ∈ statuses.drop (announcedAt statuses), status.inFault) ∧
      ∀ status ∈ (statuses.take (announcedAt statuses)).getLast?, status.inFault = false := by
  -- the announcement is where the last stretch of faults begins
  have hsplit := @List.rdropWhile_append_rtakeWhile _ DeviceStatus.inFault statuses
  have htake : statuses.take (announcedAt statuses) =
      statuses.rdropWhile DeviceStatus.inFault :=
    (List.prefix_iff_eq_take.mp (List.rdropWhile_prefix _ _)).symm
  have hdrop : statuses.drop (announcedAt statuses) =
      statuses.rtakeWhile DeviceStatus.inFault := by
    have happend := List.take_append_drop (announcedAt statuses) statuses
    rw [htake] at happend
    exact List.append_cancel_left (happend.trans hsplit.symm)
  refine ⟨?_, ?_, ?_⟩
  -- that stretch is not empty
  · obtain ⟨front, rfl⟩ := List.getLast?_eq_some_iff.mp hlast
    rw [announcedAt, List.rdropWhile_concat_pos _ _ _ hfault, List.length_append]
    exact Nat.lt_succ_of_le (List.rdropWhile_prefix _ _).length_le
  · rw [hdrop]
    exact fun status hmem => List.mem_rtakeWhile_imp hmem
  · rw [htake]
    intro status hstatus
    -- the status before it, if any, is no fault
    have hne : statuses.rdropWhile DeviceStatus.inFault ≠ [] := by
      rintro hnil
      rw [hnil] at hstatus
      cases hstatus
    rw [List.getLast?_eq_some_getLast hne, Option.mem_some_iff] at hstatus
    rw [← hstatus, ← Bool.not_eq_true]
    exact List.rdropWhile_last_not _ _ hne

/-- Until the first broadcast the device is in `Init`. -/
theorem state_eq_init_of_no_broadcasts (timestamp : UInt64)
    (calls : List (StatusUpdate × UInt64))
    (h : ((DeviceStatusStore.new timestamp).updateAll calls).broadcasts = []) :
    ((DeviceStatusStore.new timestamp).updateAll calls).current.state = .init := by
  induction calls using List.reverseRecOn with
  | nil => rfl
  | append_singleton calls call ih =>
    rw [DeviceStatusStore.updateAll_append_singleton] at h ⊢
    rw [DeviceStatusStore.broadcasts_update, List.append_eq_nil_iff] at h
    rw [DeviceStatusStore.current_update]
    have hsilent : call.1.reason = none := by
      cases hreason : call.1.reason with
      | none => rfl
      | some reason =>
        rw [hreason] at h
        cases h.2
    obtain ⟨-, hstate, -⟩ := agrees_snapshot_of_silent hsilent
      ((DeviceStatusStore.new timestamp).updateAll calls).current call.2
    exact hstate.symm.trans (ih h.1)

variable {ι : Type*}

/-- While the lock is free, a fault in the snapshot has been broadcast. -/
theorem UpdateRun.Serial.fault_broadcast {timestamp : UInt64} {run : UpdateRun ι}
    (h : run.Serial timestamp) (hfree : run.writer = none)
    (hfault : run.store.current.inFault) :
    ∃ last, run.store.broadcasts.getLast? = some last ∧ last.inFault := by
  obtain ⟨hbroadcasts, -, -⟩ := h.at_writer hfree
  simp only [unsentSnapshot, unloggedSnapshot, List.append_nil] at hbroadcasts
  cases hlast : run.store.broadcasts.getLast? with
  | none =>
    have hinit := state_eq_init_of_no_broadcasts timestamp run.history
      (hbroadcasts.trans (List.getLast?_eq_none_iff.mp hlast))
    rw [← h.current] at hinit
    simp [DeviceStatus.inFault, hinit] at hfault
  | some last =>
    have hagrees := getLast_broadcasts_agrees timestamp run.history last
      (by rw [hbroadcasts, hlast]; rfl)
    rw [← h.current] at hagrees
    refine ⟨last, rfl, ?_⟩
    rw [DeviceStatus.inFault, hagrees.2.1]
    exact hfault

/-- Broadcasts are only ever added. -/
theorem UpdateRun.broadcasts_prefix_step [DecidableEq ι] {run next : UpdateRun ι}
    {event : UpdateEvent ι} (hstep : run.step event = some next) :
    run.store.broadcasts <+: next.store.broadcasts := by
  cases event with
  | call caller update =>
    simp only [step] at hstep
    split at hstep
    · cases hstep
    · split at hstep <;> cases hstep <;> exact List.prefix_rfl
  | heartbeat status =>
    cases hstep
    exact List.prefix_rfl
  -- the only event that broadcasts
  | send =>
    simp only [step] at hstep
    split at hstep
    · cases hstep
      exact List.prefix_append _ _
    · cases hstep
  | acquire | change | append | release =>
    simp only [step] at hstep
    split at hstep
    · cases hstep
      exact List.prefix_rfl
    · cases hstep

namespace StatusSubscription

/-! ## The task behind the broadcasts -/

/-- The broadcast statuses among the publications. -/
def updates (published : List Publication) : List DeviceStatus :=
  published.filterMap fun
    | .update status => some status
    | .periodic _ => none

/-- The broadcast status that the task holds. -/
def held : PublishPhase → List DeviceStatus
  | .sending publication => updates [publication]
  | _ => []

/-- The task has passed on what it took from the channel, and holds at most one status. -/
structure Follows (timestamp : UInt64) (s : StatusSubscription ι) : Prop where
  serial : s.run.Serial timestamp
  unsubscribed : s.phase = .unsubscribed → s.published = []
  subscribed : s.subscribed ≤ s.received
  received : s.received ≤ s.broadcasts.length
  passed : updates s.published ++ held s.phase = (s.broadcasts.take s.received).drop s.subscribed
  terminated : ∀ sent, s.phase = .terminated sent →
    sent <+: s.broadcasts ∧ s.received ≤ sent.length ∧
      ∃ last, sent.getLast? = some last ∧ last.inFault

theorem follows_start (timestamp : UInt64) :
    Follows timestamp (start timestamp : StatusSubscription ι) where
  serial := UpdateRun.serial_start timestamp
  unsubscribed _ := rfl
  subscribed := Nat.le_refl 0
  received := Nat.le_refl 0
  passed := rfl
  terminated sent h := by cases h

/-- The task moves on without taking or passing on anything. -/
theorem Follows.move {timestamp : UInt64} {s : StatusSubscription ι} (h : Follows timestamp s)
    {phase next : PublishPhase} (hphase : s.phase = phase) (hheld : held next = held phase)
    (hsubscribed : next ≠ .unsubscribed) (hrunning : ∀ sent, next ≠ .terminated sent) :
    Follows timestamp { s with phase := next } := by
  refine ⟨h.serial, fun heq => absurd heq hsubscribed, h.subscribed, h.received, ?_,
    fun sent heq => absurd heq (hrunning sent)⟩
  have hpassed := h.passed
  rw [hphase, ← hheld] at hpassed
  exact hpassed

/-- At the end of the task, what it has forwarded is what it has taken. -/
theorem Follows.updates_of_terminated {timestamp : UInt64} {s : StatusSubscription ι}
    (h : Follows timestamp s) {sent : List DeviceStatus} (hphase : s.phase = .terminated sent) :
    updates s.published = (sent.take s.received).drop s.subscribed := by
  obtain ⟨⟨rest, hrest⟩, hreceived, -⟩ := h.terminated sent hphase
  have hpassed := h.passed
  rw [hphase] at hpassed
  change updates s.published ++ [] = _ at hpassed
  rw [List.append_nil, ← hrest, List.take_append_of_le_length hreceived] at hpassed
  exact hpassed

/-- The announcement has been forwarded exactly if it has been taken from the channel. -/
theorem Follows.announced_iff {timestamp : UInt64} {s : StatusSubscription ι}
    (h : Follows timestamp s) {sent : List DeviceStatus} (hphase : s.phase = .terminated sent) :
    (sent.take (announcedAt sent + 1)).drop s.subscribed <+: updates s.published ↔
      announcedAt sent < s.received := by
  obtain ⟨-, hreceived, last, hlast, hfault⟩ := h.terminated sent hphase
  have hannounced := (announcedAt_spec hlast hfault).1
  rw [h.updates_of_terminated hphase]
  constructor
  · intro hprefix
    have hlength := hprefix.length_le
    have hsubscribed := h.subscribed
    simp only [List.length_drop, List.length_take_of_le hreceived,
      List.length_take_of_le hannounced] at hlength
    omega
  · intro hlt
    exact (List.take_prefix_take_left hlt).drop s.subscribed

/-- At the state check the task goes on, or it ends with the fault on the channel. -/
theorem follows_check {timestamp : UInt64} {s : StatusSubscription ι} (h : Follows timestamp s)
    (hphase : s.phase = .checking) (hfree : s.run.writer = none) :
    Follows timestamp
      { s with phase :=
          if s.run.store.current.inFault then .terminated s.broadcasts else .selecting } := by
  cases hfault : s.run.store.current.inFault with
  | false =>
    change Follows timestamp { s with phase := .selecting }
    refine h.move hphase rfl ?_ ?_
    · rintro ⟨⟩
    · rintro sent ⟨⟩
  | true =>
    have hpassed := h.passed
    rw [hphase] at hpassed
    refine ⟨h.serial, ?_, h.subscribed, h.received, hpassed, ?_⟩
    · rintro ⟨⟩
    -- the lock is free, so the fault in the snapshot has been broadcast
    · rintro sent ⟨⟩
      exact ⟨List.prefix_rfl, h.received, h.serial.fault_broadcast hfree hfault⟩

/-- The task takes the next status from the channel and holds it. -/
theorem follows_receive {timestamp : UInt64} {s : StatusSubscription ι} (h : Follows timestamp s)
    (hphase : s.phase = .selecting) {status : DeviceStatus}
    (hstatus : s.broadcasts[s.received]? = some status) :
    Follows timestamp
      { s with received := s.received + 1, phase := .sending (.update status) } := by
  obtain ⟨hlt, hget⟩ := List.getElem?_eq_some_iff.mp hstatus
  refine ⟨h.serial, ?_, h.subscribed.trans (Nat.le_succ _), hlt, ?_, ?_⟩
  · rintro ⟨⟩
  -- one more status is taken, and it is the one that is held
  · have hpassed := h.passed
    rw [hphase] at hpassed
    change updates s.published ++ [] = _ at hpassed
    change updates s.published ++ [status] = _
    rw [List.append_nil] at hpassed
    rw [hpassed, ← hget, ← List.take_concat_get' _ _ hlt, List.drop_append_of_le_length]
    rw [List.length_take_of_le h.received]
    exact h.subscribed
  · rintro sent ⟨⟩

/-- The task passes on what it holds. -/
theorem follows_send {timestamp : UInt64} {s : StatusSubscription ι} (h : Follows timestamp s)
    {publication : Publication} (hphase : s.phase = .sending publication) :
    Follows timestamp
      { s with published := s.published ++ [publication], phase := .checking } := by
  have hpassed := h.passed
  rw [hphase] at hpassed
  refine ⟨h.serial, ?_, h.subscribed, h.received, ?_, ?_⟩
  · rintro ⟨⟩
  · change updates (s.published ++ [publication]) ++ [] = _
    rw [List.append_nil, updates, List.filterMap_append]
    exact hpassed
  · rintro sent ⟨⟩

variable [DecidableEq ι]

/-- The callers only add broadcasts. -/
theorem follows_update {timestamp : UInt64} {s : StatusSubscription ι} (h : Follows timestamp s)
    {event : UpdateEvent ι} {run : UpdateRun ι} (hrun : s.run.step event = some run) :
    Follows timestamp { s with run := run } := by
  have hlength := (UpdateRun.broadcasts_prefix_step hrun).length_le
  obtain ⟨rest, hrest⟩ := UpdateRun.broadcasts_prefix_step hrun
  refine ⟨UpdateRun.serial_step s.run event run h.serial hrun, h.unsubscribed, h.subscribed,
    h.received.trans hlength, ?_, ?_⟩
  -- what has been taken lies in the old part
  · rw [h.passed]
    simp only [broadcasts, ← hrest]
    rw [List.take_append_of_le_length h.received]
  · intro sent hphase
    obtain ⟨hsent, hbounds⟩ := h.terminated sent hphase
    exact ⟨hsent.trans ⟨rest, hrest⟩, hbounds⟩

/-- One step of a caller or of the task. -/
theorem follows_step {timestamp : UInt64} (s : StatusSubscription ι) (event : SubscriptionEvent ι)
    (t : StatusSubscription ι) (h : Follows timestamp s) (hstep : s.step event = some t) :
    Follows timestamp t := by
  cases event with
  | update event =>
    simp only [step, Option.map_eq_some_iff] at hstep
    obtain ⟨run, hrun, rfl⟩ := hstep
    exact follows_update h hrun
  -- a subscriber gets nothing of what was broadcast before
  | subscribe minIntervalSec =>
    simp only [step] at hstep
    split at hstep
    · rename_i hphase
      cases hstep
      refine ⟨h.serial, ?_, Nat.le_refl _, Nat.le_refl _, ?_, ?_⟩
      · rintro ⟨⟩
      · simp [h.unsubscribed hphase, updates, held]
      · rintro sent ⟨⟩
    · cases hstep
  | check =>
    simp only [step] at hstep
    split at hstep
    · rename_i hphase hfree
      cases hstep
      exact follows_check h hphase hfree
    · cases hstep
  | receive =>
    simp only [step] at hstep
    split at hstep
    · rename_i status hphase hstatus
      cases hstep
      exact follows_receive h hphase hstatus
    · cases hstep
  -- the periodic branch takes nothing from the channel
  | tick =>
    simp only [step] at hstep
    split at hstep
    · rename_i hphase _
      cases hstep
      refine h.move hphase rfl ?_ ?_
      · rintro ⟨⟩
      · rintro sent ⟨⟩
    · cases hstep
  | read =>
    simp only [step] at hstep
    split at hstep
    · rename_i hphase _
      cases hstep
      refine h.move hphase rfl ?_ ?_
      · rintro ⟨⟩
      · rintro sent ⟨⟩
    · cases hstep
  | send =>
    simp only [step] at hstep
    split at hstep
    · rename_i publication hphase
      cases hstep
      exact follows_send h hphase
    · cases hstep

/-! ## What the subscriber gets before the task stops -/

/-- The task, if its check of the state has ended it, has forwarded in order every broadcast since
the subscription up to and including the one that announced the fault. -/
def ForwardedThroughFault (s : StatusSubscription ι) : Prop :=
  ∀ sent, s.phase = .terminated sent →
    (sent.take (announcedAt sent + 1)).drop s.subscribed <+: updates s.published

/-- A check of the state during a fault comes after the task has taken the announcement from the
channel. -/
def AnnouncementTaken (s : StatusSubscription ι) : SubscriptionEvent ι → Prop
  | .check => s.run.store.current.inFault → announcedAt s.broadcasts < s.received
  | _ => True

instance (s : StatusSubscription ι) :
    (event : SubscriptionEvent ι) → Decidable (AnnouncementTaken s event)
  | .check => inferInstanceAs
      (Decidable (s.run.store.current.inFault → announcedAt s.broadcasts < s.received))
  | .update _ | .subscribe _ | .receive | .tick | .read | .send =>
    inferInstanceAs (Decidable True)

/-- Only a check of the state during a fault ends the task. -/
theorem terminated_of_step {s t : StatusSubscription ι} {event : SubscriptionEvent ι}
    {sent : List DeviceStatus} (hstep : s.step event = some t)
    (hphase : t.phase = .terminated sent) :
    t.received = s.received ∧ (s.phase = .terminated sent ∨
      event = .check ∧ s.run.store.current.inFault ∧ sent = s.broadcasts) := by
  cases event with
  | update event =>
    simp only [step, Option.map_eq_some_iff] at hstep
    obtain ⟨run, -, rfl⟩ := hstep
    exact ⟨rfl, .inl hphase⟩
  -- only a check ends the stream, and only on a fault
  | check =>
    simp only [step] at hstep
    split at hstep
    · cases hstep
      refine ⟨rfl, .inr ⟨rfl, ?_⟩⟩
      -- the status just read decides
      by_cases hfault : s.run.store.current.inFault
      · rw [if_pos hfault] at hphase
        cases hphase
        exact ⟨hfault, rfl⟩
      · rw [if_neg hfault] at hphase
        cases hphase
    · cases hstep
  | subscribe | receive | tick | read | send =>
    simp only [step] at hstep
    split at hstep <;> cases hstep
    cases hphase

/-- A check of the state during a fault ends the task. -/
theorem check_of_fault {s t : StatusSubscription ι} (hfault : s.run.store.current.inFault)
    (hstep : s.step .check = some t) :
    t.phase = .terminated s.broadcasts ∧ t.received = s.received := by
  simp only [step] at hstep
  split at hstep
  · cases hstep
    exact ⟨if_pos hfault, rfl⟩
  · cases hstep

/-- A task that has ended stays as it is. -/
theorem step_of_terminated {s t : StatusSubscription ι} {event : SubscriptionEvent ι}
    {sent : List DeviceStatus} (hphase : s.phase = .terminated sent)
    (hstep : s.step event = some t) :
    t.phase = .terminated sent ∧ t.received = s.received := by
  cases event with
  | update event =>
    simp only [step, Option.map_eq_some_iff] at hstep
    obtain ⟨run, -, rfl⟩ := hstep
    exact ⟨hphase, rfl⟩
  | subscribe | check | receive | tick | read | send =>
    rw [step, hphase] at hstep
    cases hstep

/-- A fault that stops a task has been announced among the broadcasts, by a status in fault that
follows one that is not. -/
theorem announcement_of_terminated {timestamp : UInt64} {events : List (SubscriptionEvent ι)}
    {s : StatusSubscription ι} (hrun : execute step (start timestamp) events = some s)
    {sent : List DeviceStatus} (hphase : s.phase = .terminated sent) :
    announcedAt sent < sent.length ∧
      (∀ status ∈ sent.drop (announcedAt sent), status.inFault) ∧
      ∀ status ∈ (sent.take (announcedAt sent)).getLast?, status.inFault = false := by
  have h : Follows timestamp s := execute_invariant follows_step (follows_start timestamp) hrun
  obtain ⟨-, -, last, hlast, hfault⟩ := h.terminated sent hphase
  exact announcedAt_spec hlast hfault

/-- If the announcement has been forwarded in the end, every check of the run came late enough. -/
theorem announcementTaken_of_forwarded {timestamp : UInt64} {s t : StatusSubscription ι}
    {events : List (SubscriptionEvent ι)} (h : Follows timestamp s)
    (hrun : execute step s events = some t) (hforwarded : ForwardedThroughFault t) :
    EveryStep step AnnouncementTaken s events := by
  induction events generalizing s with
  | nil => trivial
  | cons event rest ih =>
    obtain ⟨u, hstep, hrest⟩ := execute_cons_eq_some.mp hrun
    have hu := follows_step s event u h hstep
    refine ⟨?_, fun v hv => ?_⟩
    · cases event with
      | check =>
        intro hfault
        obtain ⟨hphase, hreceived⟩ := check_of_fault hfault hstep
        -- the task rests from here to the end of the run
        have hrests : t.phase = .terminated s.broadcasts ∧ t.received = u.received :=
          execute_invariant (I := fun v => v.phase = .terminated s.broadcasts ∧
              v.received = u.received)
            (fun v event w hv hw =>
              ⟨(step_of_terminated hv.1 hw).1, (step_of_terminated hv.1 hw).2.trans hv.2⟩)
            ⟨hphase, rfl⟩ hrest
        have ht : Follows timestamp t := execute_invariant follows_step hu hrest
        have hannounced := (ht.announced_iff hrests.1).mp (hforwarded _ hrests.1)
        rwa [hrests.2, hreceived] at hannounced
      | _ => trivial
    · cases hstep.symm.trans hv
      exact ih hu hrest

/-- **A stopped subscription.** In every run, a task that a fault has stopped has forwarded all
broadcasts up to the announcement of the fault if and only if each of its checks during a fault
came after it had taken the announcement from the channel. -/
theorem forwarded_through_fault_iff {timestamp : UInt64} {events : List (SubscriptionEvent ι)}
    {s : StatusSubscription ι} (hrun : execute step (start timestamp) events = some s) :
    ForwardedThroughFault s ↔ EveryStep step AnnouncementTaken (start timestamp) events := by
  constructor
  · exact announcementTaken_of_forwarded (follows_start timestamp) hrun
  · intro htaken
    have hs : Follows timestamp s ∧
        ∀ sent, s.phase = .terminated sent → announcedAt sent < s.received := by
      refine execute_invariant_of_guarded (G := AnnouncementTaken)
        (I := fun s => Follows timestamp s ∧
          ∀ sent, s.phase = .terminated sent → announcedAt sent < s.received)
        ?_ ⟨follows_start timestamp, fun sent hphase => by cases hphase⟩ htaken hrun
      intro s event t h hguard hstep
      refine ⟨follows_step s event t h.1 hstep, fun sent hphase => ?_⟩
      obtain ⟨hreceived, hrested | ⟨rfl, hfault, rfl⟩⟩ := terminated_of_step hstep hphase
      · exact hreceived ▸ h.2 sent hrested
      · exact hreceived ▸ hguard hfault
    exact fun sent hphase => (hs.1.announced_iff hphase).mpr (hs.2 sent hphase)

/-- The task waits with an empty channel when the device enters `Error`. -/
def faultWhileSelecting : List (SubscriptionEvent Unit) :=
  [.subscribe (some 5), .check, .update (.call () (.state .error)), .update (.acquire ()),
    .update (.change 7), .update .append, .update .send, .receive, .update .release, .send, .check]

theorem forwarded_through_fault_iff_selecting :
    ∃ s, execute step (start 0) faultWhileSelecting = some s ∧ s.phase ≠ .checking ∧
      s.published.length = 1 ∧ ForwardedThroughFault s := by
  obtain ⟨s, hrun, hphase, hlength⟩ : ∃ s,
      execute step (start 0) faultWhileSelecting = some s ∧ s.phase ≠ .checking ∧
        s.published.length = 1 := ⟨_, rfl, by decide, rfl⟩
  exact ⟨s, hrun, hphase, hlength, (forwarded_through_fault_iff hrun).mpr (by decide)⟩

/-- The device enters `Error` while the task passes on a change of the temperature. -/
def faultWhileSending : List (SubscriptionEvent Unit) :=
  [.subscribe none, .check, .update (.call () (.temperature 30)), .update (.acquire ()),
    .update (.change 7), .update .append, .update .send, .update .release, .receive,
    .update (.call () (.state .error)), .update (.acquire ()), .update (.change 8),
    .update .append, .update .send, .update .release, .send, .check]

/-- The subscriber never hears of the fault. -/
theorem announcement_lost_while_sending :
    ∃ s, execute step (start 0) faultWhileSending = some s ∧
      (∀ publication ∈ s.published, ∃ status, publication = .update status ∧ status.state = .init) ∧
      ¬ ForwardedThroughFault s := by
  refine ⟨_, rfl, ?_, ?_⟩
  · intro publication hmem
    cases List.mem_singleton.mp hmem
    exact ⟨_, rfl, rfl⟩
  · intro hforwarded
    have hprefix := hforwarded _ rfl
    revert hprefix
    decide

end StatusSubscription

end TsnFieldbus
