import Mathlib.Data.List.TakeWhile
import TsnFieldbus.Common.StreamStore

/-!
# Adding a List of Streams

`add_stream_configs` checks the list on its own first and then inserts the streams one by
one, looking at the store only when a stream's turn comes.

- `checkStreamConfigs_eq_ok_iff`: what the first loop accepts.
- `insertStreamConfigs_exact`: the second loop inserts what stands before the first stream
  that is already configured.
- `addStreamConfigs_allOrNothing_iff`: when the two together are all-or-nothing.
-/

namespace TsnFieldbus

/-- In range, the conversion to sixteen bits succeeds. -/
theorem streamIdAsU16_ok {streamId : UInt32} (h : ¬ streamId > 65535) :
    streamIdAsU16 streamId = .ok streamId.toUInt16 := if_neg h

/-- In range, the conversion to sixteen bits separates identifiers. -/
theorem toUInt16_inj_of_le {a b : UInt32} (ha : ¬ a > 65535) (hb : ¬ b > 65535)
    (h : a.toUInt16 = b.toUInt16) : a = b := by
  have ha' : a.toNat ≤ 65535 := UInt32.le_iff_toNat_le.mp (UInt32.not_lt.mp ha)
  have hb' : b.toNat ≤ 65535 := UInt32.le_iff_toNat_le.mp (UInt32.not_lt.mp hb)
  have hmod : a.toNat % 65536 = b.toNat % 65536 := by
    have := congrArg UInt16.toNat h
    simpa only [UInt32.toNat_toUInt16] using this
  apply UInt32.toNat_inj.mp
  omega

/-- Directions that are known have an initial number. -/
theorem initialSequenceNumber_ok_iff {direction : Int32} :
    (∃ seq, initialSequenceNumber direction = .ok seq) ↔
      (Direction.tryFrom direction).isSome := by
  unfold initialSequenceNumber
  cases Direction.tryFrom direction with
  | none => simp
  | some known => cases known <;> simp

namespace StreamStore

/-! ## The first loop -/

/-- Identifiers of sixteen bits, no two the same, and known directions. -/
structure WellFormedBatch (configs : List StreamConfig) : Prop where
  fits : ∀ config ∈ configs, ¬ config.streamId > 65535
  known : ∀ config ∈ configs, (Direction.tryFrom config.direction).isSome
  distinct : (configs.map (·.streamId)).Nodup

theorem WellFormedBatch.tail {config : StreamConfig} {rest : List StreamConfig}
    (h : WellFormedBatch (config :: rest)) : WellFormedBatch rest :=
  ⟨fun c hc => h.fits c (List.mem_cons_of_mem _ hc),
    fun c hc => h.known c (List.mem_cons_of_mem _ hc),
    (List.nodup_cons.mp (List.map_cons ▸ h.distinct)).2⟩

/-- No later stream has the identifier of the first. -/
theorem WellFormedBatch.head_ne {config other : StreamConfig} {rest : List StreamConfig}
    (h : WellFormedBatch (config :: rest)) (hmem : other ∈ rest) :
    other.streamId.toUInt16 ≠ config.streamId.toUInt16 := by
  intro heq
  have hid := toUInt16_inj_of_le (h.fits other (List.mem_cons_of_mem _ hmem))
    (h.fits config List.mem_cons_self) heq
  have hdistinct := h.distinct
  rw [List.map_cons, List.nodup_cons] at hdistinct
  exact hdistinct.1 (hid ▸ List.mem_map_of_mem hmem)

/-- What the first loop accepts after it has seen some identifiers. -/
theorem checkStreamConfigs_eq_ok_iff_of_seen {seen : List UInt32} {configs : List StreamConfig}
    (hseen : ∀ id ∈ seen, ¬ id > 65535) :
    checkStreamConfigs (seen.map UInt32.toUInt16) configs = .ok () ↔
      WellFormedBatch configs ∧ ∀ config ∈ configs, config.streamId ∉ seen := by
  induction configs generalizing seen with
  | nil => exact ⟨fun _ => ⟨⟨by simp, by simp, List.nodup_nil⟩, by simp⟩, fun _ => rfl⟩
  | cons config rest ih =>
    by_cases hfits : config.streamId > 65535
    · have hcode : checkStreamConfigs (seen.map UInt32.toUInt16) (config :: rest) =
          .error .errParamInvalid := by
        simp only [checkStreamConfigs, streamIdAsU16, if_pos hfits]
      rw [hcode]
      exact ⟨fun h => (by cases h),
        fun h => absurd hfits (h.1.fits config List.mem_cons_self)⟩
    -- identifiers that fit differ also after the cast
    have hmem : config.streamId.toUInt16 ∈ seen.map UInt32.toUInt16 ↔ config.streamId ∈ seen := by
      constructor
      · intro h
        obtain ⟨id, hid, heq⟩ := List.mem_map.mp h
        exact toUInt16_inj_of_le (hseen id hid) hfits heq ▸ hid
      · exact List.mem_map_of_mem
    simp only [checkStreamConfigs, streamIdAsU16_ok hfits, hmem]
    by_cases hdup : config.streamId ∈ seen
    · rw [if_pos hdup]
      exact ⟨fun h => (by cases h), fun h => absurd hdup (h.2 config List.mem_cons_self)⟩
    rw [if_neg hdup]
    cases hseq : initialSequenceNumber config.direction with
    | error code =>
      refine ⟨fun h => (by cases h), fun h => ?_⟩
      obtain ⟨seq, hok⟩ := initialSequenceNumber_ok_iff.mpr (h.1.known config List.mem_cons_self)
      rw [hok] at hseq
      cases hseq
    | ok seq =>
      have hnext := @ih (config.streamId :: seen) (List.forall_mem_cons.mpr ⟨hfits, hseen⟩)
      rw [List.map_cons] at hnext
      rw [hnext]
      constructor
      · rintro ⟨hrest, hnew⟩
        refine ⟨⟨?_, ?_, ?_⟩, ?_⟩
        · exact List.forall_mem_cons.mpr ⟨hfits, hrest.fits⟩
        · exact List.forall_mem_cons.mpr ⟨initialSequenceNumber_ok_iff.mp ⟨seq, hseq⟩, hrest.known⟩
        · rw [List.map_cons, List.nodup_cons]
          refine ⟨?_, hrest.distinct⟩
          intro h
          obtain ⟨other, hother, heq⟩ := List.mem_map.mp h
          exact hnew other hother (heq ▸ List.mem_cons_self)
        · refine List.forall_mem_cons.mpr ⟨hdup, ?_⟩
          exact fun other hother h => hnew other hother (List.mem_cons_of_mem _ h)
      · rintro ⟨hbatch, hnew⟩
        refine ⟨hbatch.tail, ?_⟩
        intro other hother h
        rcases List.mem_cons.mp h with heq | hold
        · exact hbatch.head_ne hother (congrArg UInt32.toUInt16 heq)
        · exact hnew other (List.mem_cons_of_mem _ hother) hold

/-- The first loop accepts the well-formed lists. -/
theorem checkStreamConfigs_eq_ok_iff {configs : List StreamConfig} :
    checkStreamConfigs [] configs = .ok () ↔ WellFormedBatch configs := by
  have h := @checkStreamConfigs_eq_ok_iff_of_seen [] configs (List.forall_mem_nil _)
  simpa using h

/-! ## The second loop -/

/-- Predicates that agree on a list take the same beginning of it. -/
private theorem takeWhile_congr {α : Type*} {p q : α → Bool} {l : List α}
    (h : ∀ a ∈ l, p a = q a) : l.takeWhile p = l.takeWhile q := by
  induction l with
  | nil => rfl
  | cons a rest ih =>
    obtain ⟨hhead, hrest⟩ := List.forall_mem_cons.mp h
    rw [List.takeWhile_cons, List.takeWhile_cons, hhead, ih hrest]

/-- The stream is in the store already. -/
def Configured (store : StreamStore) (config : StreamConfig) : Prop :=
  (store.entry config.streamId.toUInt16).isSome

instance (store : StreamStore) : DecidablePred store.Configured :=
  fun _ => inferInstanceAs (Decidable (_ = true))

/-- The stream is in the store as a batch that is added leaves it. -/
def AddedIn (store : StreamStore) (config : StreamConfig) : Prop :=
  ∃ seq, initialSequenceNumber config.direction = .ok seq ∧
    store.entry config.streamId.toUInt16 = some ⟨config, seq⟩

theorem AddedIn.configured {store : StreamStore} {config : StreamConfig}
    (h : store.AddedIn config) : store.Configured config := by
  obtain ⟨seq, -, hentry⟩ := h
  rw [Configured, hentry]
  rfl

/-- The second loop on a well-formed list: it writes the streams before the first one that is
configured already, and stops there. -/
theorem insertStreamConfigs_exact {store : StreamStore} {configs : List StreamConfig}
    (h : WellFormedBatch configs) :
    (store.insertStreamConfigs configs).1 =
        (if ∀ config ∈ configs, ¬ store.Configured config then .ok ()
          else .error .errParamInvalid) ∧
      (∀ config ∈ configs.takeWhile (¬ store.Configured ·),
        (store.insertStreamConfigs configs).2.AddedIn config) ∧
      ∀ id, (∀ config ∈ configs.takeWhile (¬ store.Configured ·),
          config.streamId.toUInt16 ≠ id) →
        (store.insertStreamConfigs configs).2.entry id = store.entry id := by
  induction configs generalizing store with
  | nil => exact ⟨by simp [insertStreamConfigs], by simp, fun _ _ => rfl⟩
  | cons config rest ih =>
    have hfits := h.fits config List.mem_cons_self
    by_cases hconfigured : store.Configured config
    -- the loop returns here
    · obtain ⟨e, he⟩ := Option.isSome_iff_exists.mp hconfigured
      have hstop : store.insertStreamConfigs (config :: rest) =
          (.error .errParamInvalid, store) := by
        simp only [insertStreamConfigs, addStreamConfig, streamIdAsU16_ok hfits, he]
      rw [hstop]
      refine ⟨?_, by simp [hconfigured], fun _ _ => rfl⟩
      rw [if_neg]
      exact fun hall => hall config List.mem_cons_self hconfigured
    · have hnone : store.entry config.streamId.toUInt16 = none := by
        simpa [Configured] using hconfigured
      obtain ⟨seq, hseq⟩ := initialSequenceNumber_ok_iff.mpr (h.known config List.mem_cons_self)
      have hgo : store.insertStreamConfigs (config :: rest) =
          (store.withEntry config.streamId.toUInt16 ⟨config, seq⟩).insertStreamConfigs rest := by
        simp only [insertStreamConfigs, addStreamConfig, streamIdAsU16_ok hfits, hnone, hseq]
      -- the inserted stream is none of the rest
      have hsame : ∀ other ∈ rest,
          (store.withEntry config.streamId.toUInt16 ⟨config, seq⟩).Configured other ↔
            store.Configured other := by
        intro other hother
        rw [Configured, Configured, entry_withEntry_ne (h.head_ne hother)]
      have htake : (config :: rest).takeWhile (¬ store.Configured ·) =
          config :: rest.takeWhile (¬ (store.withEntry config.streamId.toUInt16
            ⟨config, seq⟩).Configured ·) := by
        rw [List.takeWhile_cons_of_pos (by simp [hconfigured])]
        congr 1
        exact takeWhile_congr (fun other hother => by simp [hsame other hother])
      obtain ⟨hresult, hadded, hkept⟩ :=
        @ih (store.withEntry config.streamId.toUInt16 ⟨config, seq⟩) h.tail
      rw [hgo, htake, hresult]
      refine ⟨?_, List.forall_mem_cons.mpr ⟨⟨seq, hseq, ?_⟩, hadded⟩, ?_⟩
      · simp only [List.forall_mem_cons, hconfigured, not_false_eq_true, true_and]
        refine if_congr ?_ rfl rfl
        exact forall₂_congr (fun other hother => not_congr (hsame other hother))
      · exact insertStreamConfigs_keeps (entry_withEntry _ _ _)
      · intro id hid
        obtain ⟨hne, hrest⟩ := List.forall_mem_cons.mp hid
        rw [hkept id hrest, entry_withEntry_ne hne.symm]

/-! ## Both loops -/

/-- A batch is added as a whole or not at all: after an error the store is what it was, after
a success it is the old one and the listed streams, which are new in it. -/
structure AllOrNothing (store : StreamStore) (configs : List StreamConfig) : Prop where
  nothing : ∀ code, (store.addStreamConfigs configs).1 = .error code →
    ∀ id, (store.addStreamConfigs configs).2.entry id = store.entry id
  listed : (store.addStreamConfigs configs).1 = .ok () →
    ∀ config ∈ configs, ¬ store.Configured config ∧ ∃ id,
      streamIdAsU16 config.streamId = .ok id ∧ ∃ seq,
        initialSequenceNumber config.direction = .ok seq ∧
          (store.addStreamConfigs configs).2.entry id = some ⟨config, seq⟩
  others : (store.addStreamConfigs configs).1 = .ok () →
    ∀ id, (∀ config ∈ configs, streamIdAsU16 config.streamId ≠ .ok id) →
      (store.addStreamConfigs configs).2.entry id = store.entry id
  existing : (store.addStreamConfigs configs).1 = .ok () →
    ∀ id e, store.entry id = some e →
      (store.addStreamConfigs configs).2.entry id = some e

/-- A refused list changes nothing. -/
theorem addStreamConfigs_of_not_wellFormed {store : StreamStore} {configs : List StreamConfig}
    (h : ¬ WellFormedBatch configs) :
    ∃ code, store.addStreamConfigs configs = (.error code, store) := by
  unfold addStreamConfigs
  cases hcheck : checkStreamConfigs [] configs with
  | error code => exact ⟨code, rfl⟩
  | ok _ => exact absurd (checkStreamConfigs_eq_ok_iff.mp hcheck) h

theorem addStreamConfigs_of_wellFormed {store : StreamStore} {configs : List StreamConfig}
    (h : WellFormedBatch configs) :
    store.addStreamConfigs configs = store.insertStreamConfigs configs := by
  simp only [addStreamConfigs, checkStreamConfigs_eq_ok_iff.mpr h]

/-- Streams that are all new are all added. -/
theorem addStreamConfigs_of_absent {store : StreamStore} {configs : List StreamConfig}
    (h : WellFormedBatch configs) (habsent : ∀ config ∈ configs, ¬ store.Configured config) :
    (store.addStreamConfigs configs).1 = .ok () ∧
      (∀ config ∈ configs, (store.addStreamConfigs configs).2.AddedIn config) ∧
      ∀ id, (∀ config ∈ configs, config.streamId.toUInt16 ≠ id) →
        (store.addStreamConfigs configs).2.entry id = store.entry id := by
  have hexact := @insertStreamConfigs_exact store _ h
  have htake : configs.takeWhile (¬ store.Configured ·) = configs :=
    List.takeWhile_eq_self_iff.mpr (fun config hmem => by simpa using habsent config hmem)
  rw [htake, if_pos habsent] at hexact
  rw [addStreamConfigs_of_wellFormed h]
  exact hexact

/-- An error that leaves the store alone is all-or-nothing. -/
private theorem allOrNothing_of_refused {store : StreamStore} {configs : List StreamConfig}
    {code : StatusCode} (h : store.addStreamConfigs configs = (.error code, store)) :
    store.AllOrNothing configs := by
  refine ⟨fun _ _ _ => by rw [h], ?_, ?_, ?_⟩
  all_goals
    intro hok
    rw [h] at hok
    cases hok

/-- Streams that are all new are added without a trace on the others. -/
theorem allOrNothing_of_absent {store : StreamStore} {configs : List StreamConfig}
    (h : WellFormedBatch configs) (habsent : ∀ config ∈ configs, ¬ store.Configured config) :
    store.AllOrNothing configs := by
  obtain ⟨hresult, hadded, hkept⟩ := addStreamConfigs_of_absent h habsent
  refine ⟨?_, ?_, ?_, ?_⟩
  · intro code herror
    rw [hresult] at herror
    cases herror
  · intro _ config hmem
    exact ⟨habsent config hmem, _, streamIdAsU16_ok (h.fits config hmem), hadded config hmem⟩
  · intro _ id hid
    refine hkept id (fun config hmem heq => hid config hmem ?_)
    rw [streamIdAsU16_ok (h.fits config hmem), heq]
  · intro _ id e he
    rw [hkept id ?_, he]
    intro config hmem heq
    subst heq
    exact habsent config hmem (by rw [Configured, he]; rfl)

/-- If the store holds the first stream, the loop fails on it. -/
theorem addStreamConfigs_of_head_configured {store : StreamStore} {first : StreamConfig}
    {rest : List StreamConfig} (h : WellFormedBatch (first :: rest))
    (hconfigured : store.Configured first) :
    store.addStreamConfigs (first :: rest) = (.error .errParamInvalid, store) := by
  obtain ⟨e, he⟩ := Option.isSome_iff_exists.mp hconfigured
  rw [addStreamConfigs_of_wellFormed h]
  simp only [insertStreamConfigs, addStreamConfig,
    streamIdAsU16_ok (h.fits first List.mem_cons_self), he]

/-- If the store holds a later stream but not the first, the loop fails after it has written
the first. -/
theorem not_allOrNothing_of_head_absent {store : StreamStore} {first : StreamConfig}
    {rest : List StreamConfig} (h : WellFormedBatch (first :: rest))
    (hnew : ¬ store.Configured first)
    (hsome : ¬ ∀ config ∈ first :: rest, ¬ store.Configured config) :
    ¬ store.AllOrNothing (first :: rest) := by
  intro hall
  obtain ⟨hresult, hadded, -⟩ := @insertStreamConfigs_exact store _ h
  rw [← addStreamConfigs_of_wellFormed h] at hresult hadded
  rw [if_neg hsome] at hresult
  have hwritten := (hadded first (by simp [hnew])).configured
  rw [Configured, hall.nothing _ hresult] at hwritten
  exact hnew hwritten

/-- **When a batch is all-or-nothing**: unless the store holds a later stream of a well-formed
list, but not the first. -/
theorem addStreamConfigs_allOrNothing_iff (store : StreamStore) (configs : List StreamConfig) :
    store.AllOrNothing configs ↔
      ¬ WellFormedBatch configs ∨ (∀ config ∈ configs, ¬ store.Configured config) ∨
        ∃ first ∈ configs.head?, store.Configured first := by
  by_cases hbatch : WellFormedBatch configs
  -- a batch that is not well formed is refused before the store is touched
  case neg =>
    obtain ⟨code, hrefused⟩ := @addStreamConfigs_of_not_wellFormed store _ hbatch
    exact ⟨fun _ => .inl hbatch, fun _ => allOrNothing_of_refused hrefused⟩
  by_cases habsent : ∀ config ∈ configs, ¬ store.Configured config
  -- a batch of new streams is added as a whole
  case pos => exact ⟨fun _ => .inr (.inl habsent), fun _ => allOrNothing_of_absent hbatch habsent⟩
  cases configs with
  | nil => simp at habsent
  | cons first rest =>
    -- some stream is there already: only if it is the first nothing is added
    by_cases hfirst : store.Configured first
    · exact ⟨fun _ => .inr (.inr ⟨first, rfl, hfirst⟩),
        fun _ => allOrNothing_of_refused (addStreamConfigs_of_head_configured hbatch hfirst)⟩
    · constructor
      · intro hall
        exact absurd hall (not_allOrNothing_of_head_absent hbatch hfirst habsent)
      · rintro (hno | hnone | ⟨head, hhead, hconfigured⟩)
        · exact absurd hbatch hno
        · exact absurd hnone habsent
        · cases Option.mem_some_iff.mp hhead
          exact absurd hconfigured hfirst

/-- A stream as the tests of the store build it. -/
def buildStream (streamId : UInt32) (direction : Direction) : StreamConfig :=
  { streamId := streamId
    destinationMac := [0xAA, 0xBB, 0xCC, 0xDD, 0xEE, 0xFF]
    vlanIdPcp := 1
    cycleTimeNano := 1000
    direction := direction.toI32
    streamContent := some ⟨0, 0, 16⟩ }

/-- A store that holds stream 2 only. -/
def storeWithStreamTwo : StreamStore :=
  (new zeroSecret).withEntry 2 ⟨buildStream 2 .input, 0⟩

/-- Stream 1 is added although the batch fails. -/
theorem partial_batch_remains :
    (storeWithStreamTwo.addStreamConfigs [buildStream 1 .output, buildStream 2 .input]).1 =
        .error .errParamInvalid ∧
      storeWithStreamTwo.entry 1 = none ∧
      (storeWithStreamTwo.addStreamConfigs
          [buildStream 1 .output, buildStream 2 .input]).2.entry 1 =
        some ⟨buildStream 1 .output, 1⟩ ∧
      ¬ storeWithStreamTwo.AllOrNothing [buildStream 1 .output, buildStream 2 .input] := by
  refine ⟨by decide, by decide, by decide, ?_⟩
  intro h
  have hsame := h.nothing .errParamInvalid (by decide) 1
  revert hsame
  decide

end StreamStore

end TsnFieldbus
