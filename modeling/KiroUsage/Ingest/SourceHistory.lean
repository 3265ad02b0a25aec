import KiroUsage.Ingest.Isolation

/-! One object of the versioned raw bucket over time. New versions are written,
their events are delivered late, repeatedly or not at all, and backfills read
whatever version is newest. Runs of the service take turns. -/
namespace KiroIngest

open Text Storage Execution ReportTransform

/-- An object of a raw bucket. -/
structure RawObject where
  bucket : Str
  key : Str
  bucket_valid : isBlank bucket = false
  key_valid : isBlank key = false

/-- A version of the object with the sequencer of its event. -/
structure Version where
  versionId : Str
  sequencer : Str
  body : CsvText
  sequencer_valid : isSequencer sequencer = true
deriving DecidableEq

/-- The order of versions is the order of their sequencers as numbers. -/
def Version.rank (v : Version) : Nat := hexValue v.sequencer

namespace RawObject

variable (o : RawObject)

/-- The object as a backfill names it. -/
def backfill : IngestSource :=
  ⟨o.bucket, o.key, none, none, o.bucket_valid, o.key_valid, valid_none⟩

/-- The object as the event of a version names it. -/
def live (v : Version) : IngestSource :=
  ⟨o.bucket, o.key, some v.versionId, some v.sequencer, o.bucket_valid, o.key_valid, fun _ h => by
    cases h
    exact v.sequencer_valid⟩

def store (v : Version) : RawVersion := ⟨o.bucket, o.key, v.versionId, v.body⟩

def holds (stored : RawVersion) : Bool := stored.bucket = o.bucket ∧ stored.key = o.key

theorem holds_store (v : Version) : o.holds (o.store v) = true := by
  simp [holds, store]

end RawObject

/-- One run of the service for the object. -/
inductive Invocation where
  | live (v : Version)
  | backfill

def Invocation.source (o : RawObject) : Invocation → IngestSource
  | live v => o.live v
  | backfill => o.backfill

/-- The object's versions, the services, and what has been delivered and
completely published so far, under a constant Target List parameter. -/
structure SourceState (o : RawObject) (parameter : Option Str) where
  world : World
  versions : List Version
  delivered : List Version
  published : List Version
  stored : world.raw.filter o.holds = versions.map o.store
  ids_nodup : (versions.map Version.versionId).Nodup
  ordered : versions.Pairwise fun u v => u.rank < v.rank
  target : world.targetListParameter = parameter

namespace SourceState

variable {o : RawObject} {parameter : Option Str}

/-- The version that an invocation reads. -/
def reads (st : SourceState o parameter) : Invocation → Option Version
  | .live v => some v
  | .backfill => st.versions.getLast?

/-- The run of an invocation, under any paging of the listings. -/
def result (s : IngestService) (st : SourceState o parameter) (i : Invocation) (plan : FaultPlan)
    (paging : Paging) : Result World Exn Unit :=
  s.processCsvAsync (i.source o) plan 0 { st.world with paging }

theorem frame_result (s : IngestService) (st : SourceState o parameter) (i : Invocation)
    (plan : FaultPlan) (paging : Paging) :
    Frame { st.world with paging } (st.result s i plan paging).state :=
  (s.processCsvAsync_effect (i.source o) plan 0 { st.world with paging }).1

/-- Whether the run has recorded a complete publication. -/
def publishes (s : IngestService) (st : SourceState o parameter) (i : Invocation)
    (plan : FaultPlan) (paging : Paging) : Bool :=
  ((st.result s i plan paging).state.history.drop st.world.history.length).contains
    (.published (i.source o))

/-- The state after an invocation. -/
def invoke (s : IngestService) (st : SourceState o parameter) (i : Invocation) (plan : FaultPlan)
    (paging : Paging) : SourceState o parameter where
  world := (st.result s i plan paging).state
  versions := st.versions
  delivered := match i with
    | .live v => st.delivered ++ [v]
    | .backfill => st.delivered
  published := if st.publishes s i plan paging then st.published ++ (st.reads i).toList
    else st.published
  stored := by
    rw [(st.frame_result s i plan paging).raw]
    exact st.stored
  ids_nodup := st.ids_nodup
  ordered := st.ordered
  target := (st.frame_result s i plan paging).targetListParameter.trans st.target

/-- A version may follow if its id is new and its sequencer the greatest. -/
def Newer (st : SourceState o parameter) (v : Version) : Prop :=
  ∀ u ∈ st.versions, u.versionId ≠ v.versionId ∧ u.rank < v.rank

/-- The state after a new version has been written. -/
def write (st : SourceState o parameter) (v : Version) (h : st.Newer v) :
    SourceState o parameter where
  world := { st.world with raw := st.world.raw ++ [o.store v] }
  versions := st.versions ++ [v]
  delivered := st.delivered
  published := st.published
  stored := by simp [st.stored, o.holds_store]
  ids_nodup := by
    rw [List.map_append, List.nodup_append]
    refine ⟨st.ids_nodup, by simp, ?_⟩
    rintro id hId other hOther rfl
    obtain ⟨u, hu, rfl⟩ := List.mem_map.mp hId
    exact (h u hu).1 (by simpa using hOther)
  ordered := by
    rw [List.pairwise_append]
    refine ⟨st.ordered, by simp, ?_⟩
    intro u hu w hw
    rw [List.mem_singleton.mp hw]
    exact (h u hu).2
  target := st.target

end SourceState

/-- The states of all runs whose invocations are allowed. A run starts before
the first version, with no saved sequencer and any other content. -/
inductive Reachable (s : IngestService) (o : RawObject) (parameter : Option Str)
    (allowed : SourceState o parameter → Invocation → FaultPlan → Paging → Prop) :
    SourceState o parameter → Prop
  | start (st : SourceState o parameter) (hVersions : st.versions = [])
      (hDelivered : st.delivered = []) (hPublished : st.published = [])
      (hState : st.world.analytics.lookup (stateKey o.backfill) = none) :
      Reachable s o parameter allowed st
  | write {st : SourceState o parameter} (h : Reachable s o parameter allowed st) (v : Version)
      (hNewer : st.Newer v) : Reachable s o parameter allowed (st.write v hNewer)
  | invoke {st : SourceState o parameter} (h : Reachable s o parameter allowed st) (i : Invocation)
      (plan : FaultPlan) (paging : Paging) (hWritten : ∀ v, i = .live v → v ∈ st.versions)
      (hAllowed : allowed st i plan paging) :
      Reachable s o parameter allowed (st.invoke s i plan paging)

/-- The transform of a version's report under the Target List. -/
def generation (s : IngestService) (parameter : Option Str) (v : Version) :
    Except Exn TransformResult := do
  transform s.platform v.body (← parseTargetList s.platform parameter)

namespace SourceState

variable {s : IngestService} {o : RawObject} {parameter : Option Str}
  (st : SourceState o parameter)

theorem readRaw_eq (versionId : Option Str) :
    st.world.readRaw o.bucket o.key versionId =
      match ((st.versions.filter fun v => versionId = none ∨ versionId = some v.versionId).map
        o.store).getLast? with
      | some version => .ok version.body
      | none => .error missingObject := by
  have hFilter : (st.world.raw.filter fun v => v.bucket = o.bucket ∧ v.key = o.key ∧
      (versionId = none ∨ versionId = some v.versionId)) =
      (st.versions.filter fun v => versionId = none ∨ versionId = some v.versionId).map o.store := by
    calc
      _ = (st.world.raw.filter o.holds).filter fun v =>
          versionId = none ∨ versionId = some v.versionId := by
        rw [List.filter_filter]
        refine List.filter_congr fun v _ => ?_
        simp only [RawObject.holds, Bool.decide_and, Bool.decide_or]
        ac_rfl
      _ = _ := by
        rw [st.stored, List.filter_map]
        rfl
  unfold World.readRaw
  exact hFilter ▸ rfl

theorem readRaw_backfill {v : Version} (h : st.versions.getLast? = some v) :
    st.world.readRaw o.bucket o.key none = .ok v.body := by
  rw [st.readRaw_eq]
  simp [h, RawObject.store]

theorem readRaw_live {v : Version} (h : v ∈ st.versions) :
    st.world.readRaw o.bucket o.key (some v.versionId) = .ok v.body := by
  have hOnly : (st.versions.filter fun u => some v.versionId = none ∨
      some v.versionId = some u.versionId) = [v] := by
    have hUnique := st.ids_nodup
    revert h hUnique
    induction st.versions with
    | nil => exact fun h => by cases h
    | cons u rest ih =>
        intro h hUnique
        rw [List.map_cons, List.nodup_cons] at hUnique
        rcases List.mem_cons.mp h with rfl | hRest
        · rw [List.filter_cons_of_pos (by simp), List.filter_eq_nil_iff.mpr]
          intro w hw hId
          exact hUnique.1 (List.mem_map.mpr ⟨w, hw, by simpa [eq_comm] using hId⟩)
        · have hne : v.versionId ≠ u.versionId := fun he =>
            hUnique.1 (List.mem_map.mpr ⟨v, hRest, he⟩)
          rw [List.filter_cons_of_neg (by simpa using hne)]
          exact ih hRest hUnique.2
  rw [st.readRaw_eq, hOnly]
  rfl

/-- An invocation transforms the version it reads. -/
theorem transformed_eq (i : Invocation) (hWritten : ∀ v, i = .live v → v ∈ st.versions)
    {v : Version} (h : st.reads i = some v) (paging : Paging) :
    s.transformed (i.source o) { st.world with paging } = generation s parameter v := by
  have hRead : st.world.readRaw (i.source o).bucket (i.source o).key (i.source o).versionId =
      .ok v.body := by
    cases i with
    | live u =>
        cases h
        exact st.readRaw_live (hWritten v rfl)
    | backfill => exact st.readRaw_backfill h
  change (do
    let csv ← st.world.readRaw (i.source o).bucket (i.source o).key (i.source o).versionId
    let targetList ← parseTargetList s.platform st.world.targetListParameter
    transform s.platform csv targetList) = _
  rw [hRead, Fallible.ok_bind, st.target]
  rfl

/-- A report that is accepted is the report of a version. -/
theorem reads_of_accepted (i : Invocation) {accepted : TransformResult} {paging : Paging}
    (h : s.transformed (i.source o) { st.world with paging } = .ok accepted) :
    ∃ v, st.reads i = some v := by
  cases i with
  | live u => exact ⟨u, rfl⟩
  | backfill =>
      cases hLast : st.versions.getLast? with
      | some v => exact ⟨v, hLast⟩
      | none =>
          obtain ⟨csv, _, hCsv, _⟩ := transformed_eq_ok h
          change st.world.readRaw o.bucket o.key none = .ok csv at hCsv
          rw [st.readRaw_eq] at hCsv
          rw [List.getLast?_eq_none_iff] at hLast
          simp [hLast] at hCsv

theorem mem_of_reads (i : Invocation) (hWritten : ∀ v, i = .live v → v ∈ st.versions) {v : Version}
    (h : st.reads i = some v) : v ∈ st.versions := by
  cases i with
  | live u =>
      cases h
      exact hWritten v rfl
  | backfill => exact List.mem_of_getLast? h

/-- The newest version has the greatest rank. -/
theorem rank_le_newest {u v : Version} (hu : u ∈ st.versions) (h : st.versions.getLast? = some v) :
    u.rank ≤ v.rank := by
  obtain ⟨before, hBefore⟩ := List.getLast?_eq_some_iff.mp h
  have hOrdered := st.ordered
  rw [hBefore, List.pairwise_append] at hOrdered
  rw [hBefore] at hu
  rcases List.mem_append.mp hu with hu | hu
  · exact (hOrdered.2.2 u hu v (by simp)).le
  · rw [List.mem_singleton.mp hu]

theorem eq_of_rank_eq {u v : Version} (hu : u ∈ st.versions) (hv : v ∈ st.versions)
    (h : u.rank = v.rank) : u = v := by
  have hNodup : (st.versions.map Version.rank).Nodup :=
    (List.pairwise_map.mpr st.ordered).imp fun hLt => hLt.ne
  exact List.inj_on_of_nodup_map hNodup hu hv h

/-- The body of the object's state document. -/
def savedState : Option ObjectBody := st.world.analytics.lookup (stateKey o.backfill)

/-- The body of a fact object. -/
def shown (key : Str) : Option ObjectBody := st.world.analytics.lookup key

/-- The complete outputs of a version, and nothing else with a name of the
object, are visible. -/
def Shows (s : IngestService) (v : Version) : Prop :=
  ∃ result, generation s parameter v = .ok result ∧ ∀ key, owned o.backfill key = true →
    st.shown key = written (prepareOutputs o.backfill result) key

/-- What one invocation does to the object's documents. -/
inductive Change (s : IngestService) (st : SourceState o parameter) (i : Invocation)
    (plan : FaultPlan) (paging : Paging) : Prop
  | skipped (hStale : st.world.staleEvent (i.source o) = .ok true)
      (hAnalytics : (st.invoke s i plan paging).world.analytics = st.world.analytics)
      (hPublished : (st.invoke s i plan paging).published = st.published)
  | interrupted (hCause : Undecided s plan (i.source o) { st.world with paging })
      (hAnalytics : (st.invoke s i plan paging).world.analytics = st.world.analytics)
      (hPublished : (st.invoke s i plan paging).published = st.published)
  | torn (v : Version) (accepted : TransformResult) (hReads : st.reads i = some v)
      (hStale : st.world.staleEvent (i.source o) = .ok false)
      (hGeneration : generation s parameter v = .ok accepted)
      (hDisturbed : DisturbsOutputs plan o.backfill)
      (hMixed : Mixed (owned o.backfill) (prepareOutputs o.backfill accepted) st.world.analytics
        (st.invoke s i plan paging).world.analytics)
      (hPublished : (st.invoke s i plan paging).published = st.published)
  | complete (v : Version) (accepted : TransformResult) (hReads : st.reads i = some v)
      (hStale : st.world.staleEvent (i.source o) = .ok false)
      (hGeneration : generation s parameter v = .ok accepted)
      (hShown : ∀ key, owned o.backfill key = true →
        (st.invoke s i plan paging).shown key = written (prepareOutputs o.backfill accepted) key)
      (hSaved : (i = .live v ∧ (st.invoke s i plan paging).savedState =
          some (.sequencerState (some v.sequencer))) ∨
        ((i = .backfill ∨ Disturbs plan (.putObject (stateKey o.backfill))) ∧
          (st.invoke s i plan paging).savedState = st.savedState))
      (hPublished : (st.invoke s i plan paging).published = st.published ++ [v])

theorem owned_source (i : Invocation) : owned (i.source o) = owned o.backfill := by
  cases i <;> rfl

theorem prepareOutputs_source (i : Invocation) (accepted : TransformResult) :
    prepareOutputs (i.source o) accepted = prepareOutputs o.backfill accepted := by
  cases i <;> rfl

theorem stateKey_source (i : Invocation) : stateKey (i.source o) = stateKey o.backfill := by
  cases i <;> rfl

theorem published_invoke (i : Invocation) (plan : FaultPlan) (paging : Paging)
    {events : List HistoryEvent}
    (h : (st.result s i plan paging).state.history = st.world.history ++ events) :
    (st.invoke s i plan paging).published =
      if events.contains (.published (i.source o)) then st.published ++ (st.reads i).toList
      else st.published := by
  change (if st.publishes s i plan paging then _ else _) = _
  rw [publishes, h, List.drop_left]

/-- Saving the sequencer, or not, after a complete publication. -/
theorem savedState_complete (i : Invocation) {v : Version} (hReads : st.reads i = some v)
    {outputs : List (Str × ObjectBody)} {complete : Bucket Str ObjectBody}
    (hReconciled : Reconciled (owned (i.source o)) outputs st.world.analytics complete) :
    complete.lookup (stateKey o.backfill) = st.savedState ∧
      ((withSequencer (i.source o) complete).lookup (stateKey o.backfill) =
          some (.sequencerState (some v.sequencer)) ∧ i = .live v ∨
        i = .backfill ∧
          (withSequencer (i.source o) complete).lookup (stateKey o.backfill) = st.savedState) := by
  have hKept : complete.lookup (stateKey o.backfill) = st.savedState := by
    rw [hReconciled, owned_stateKey]
    rfl
  refine ⟨hKept, ?_⟩
  cases i with
  | live u =>
      cases hReads
      exact Or.inl ⟨lookup_withSequencer_stateKey (show (o.live v).sequencer = _ from rfl) complete, rfl⟩
  | backfill => exact Or.inr ⟨rfl, hKept⟩

theorem change (i : Invocation) (plan : FaultPlan) (paging : Paging)
    (hWritten : ∀ v, i = .live v → v ∈ st.versions) : Change s st i plan paging := by
  have hEffect := (s.processCsvAsync_effect (i.source o) plan 0 { st.world with paging }).2
  have hShown {accepted : TransformResult} {complete : Bucket Str ObjectBody}
      (hReconciled : Reconciled (owned (i.source o)) (prepareOutputs (i.source o) accepted)
        st.world.analytics complete)
      (hAnalytics : (st.invoke s i plan paging).world.analytics = complete ∨
        (st.invoke s i plan paging).world.analytics = withSequencer (i.source o) complete)
      (key : Str) (hOwned : owned o.backfill key = true) :
      (st.invoke s i plan paging).shown key = written (prepareOutputs o.backfill accepted) key := by
    have hKey := ne_stateKey_of_isFactKey (isFactKey_of_owned hOwned) (i.source o)
    have hComplete := hReconciled key
    rw [owned_source, if_pos hOwned, prepareOutputs_source] at hComplete
    rcases hAnalytics with hAnalytics | hAnalytics
    · rw [shown, hAnalytics, hComplete]
    · rw [shown, hAnalytics, lookup_withSequencer hKey, hComplete]
  cases hEffect with
  | skipped _ hStale hAnalytics hHistory =>
      refine .skipped hStale hAnalytics ?_
      rw [st.published_invoke i plan paging hHistory]
      simp
  | interrupted _ hCause hAnalytics hHistory =>
      refine .interrupted hCause hAnalytics ?_
      rw [st.published_invoke i plan paging hHistory]
      simp
  | torn accepted _ hStale hResult hDisturbed hMixed _ hHistory =>
      obtain ⟨v, hReads⟩ := st.reads_of_accepted i hResult
      rw [st.transformed_eq i hWritten hReads] at hResult
      rw [owned_source, prepareOutputs_source] at hMixed
      refine .torn v accepted hReads hStale hResult ?_ hMixed ?_
      · rwa [DisturbsOutputs, owned_source] at hDisturbed
      · rw [st.published_invoke i plan paging hHistory]
        simp
  | unsaved accepted complete _ hStale hResult hDisturbed hReconciled hAnalytics hHistory =>
      obtain ⟨v, hReads⟩ := st.reads_of_accepted i hResult
      rw [st.transformed_eq i hWritten hReads] at hResult
      obtain ⟨hKept, hSaved⟩ := st.savedState_complete i hReads hReconciled
      rw [stateKey_source] at hDisturbed
      refine .complete v accepted hReads hStale hResult (hShown hReconciled hAnalytics) ?_ ?_
      · rcases hAnalytics with hAnalytics | hAnalytics
        · exact Or.inr ⟨Or.inr hDisturbed, by rw [savedState]; exact hAnalytics ▸ hKept⟩
        · rcases hSaved with ⟨hSaved, hLive⟩ | ⟨_, hSaved⟩
          · exact Or.inl ⟨hLive, by rw [savedState]; exact hAnalytics ▸ hSaved⟩
          · exact Or.inr ⟨Or.inr hDisturbed, by rw [savedState]; exact hAnalytics ▸ hSaved⟩
      · rw [st.published_invoke i plan paging hHistory, hReads]
        simp
  | published accepted complete _ hStale hResult hReconciled hAnalytics hHistory =>
      obtain ⟨v, hReads⟩ := st.reads_of_accepted i hResult
      rw [st.transformed_eq i hWritten hReads] at hResult
      obtain ⟨_, hSaved⟩ := st.savedState_complete i hReads hReconciled
      refine .complete v accepted hReads hStale hResult (hShown hReconciled (Or.inr hAnalytics)) ?_ ?_
      · rcases hSaved with ⟨hSaved, hLive⟩ | ⟨hBackfill, hSaved⟩
        · exact Or.inl ⟨hLive, by rw [savedState]; exact hAnalytics ▸ hSaved⟩
        · exact Or.inr ⟨Or.inl hBackfill, by rw [savedState]; exact hAnalytics ▸ hSaved⟩
      · rw [st.published_invoke i plan paging hHistory, hReads]
        simp

/-- The saved sequencer is missing or that of a version. -/
def SavedVersion : Prop :=
  st.savedState = none ∨
    ∃ u ∈ st.versions, st.savedState = some (.sequencerState (some u.sequencer))

/-- Without a saved sequencer no event is stale. -/
theorem staleEvent_of_unsaved (h : st.savedState = none) (i : Invocation) :
    st.world.staleEvent (i.source o) = .ok false :=
  staleEvent_of_absent (by rw [stateKey_source]; exact h)

/-- A saved version makes the events of all versions up to it stale. -/
theorem staleEvent_of_savedVersion {u : Version}
    (h : st.savedState = some (.sequencerState (some u.sequencer))) (v : Version) :
    st.world.staleEvent ((Invocation.live v).source o) = .ok (decide (v.rank ≤ u.rank)) := by
  have hSaved : st.world.savedSequencer (o.live v) = .ok (some u.sequencer) :=
    savedSequencer_of_lookup h
  change (do isStale v.sequencer (← st.world.savedSequencer (o.live v))) = _
  rw [hSaved, Fallible.ok_bind, isStale_some v.sequencer_valid
    (hex_of_isSequencer u.sequencer_valid)]
  rfl

/-- No invocation finds a state document it cannot read. -/
theorem staleEvent_ok (h : st.SavedVersion) (i : Invocation) :
    ∃ stale, st.world.staleEvent (i.source o) = .ok stale := by
  rcases h with hNone | ⟨u, _, hSaved⟩
  · exact ⟨_, st.staleEvent_of_unsaved hNone i⟩
  · cases i with
    | live v => exact ⟨_, st.staleEvent_of_savedVersion hSaved v⟩
    | backfill => exact ⟨_, staleEvent_of_backfill rfl st.world⟩

theorem savedState_of_mixed {i : Invocation} {plan : FaultPlan} {paging : Paging}
    {outputs : List (Str × ObjectBody)} (h : Mixed (owned o.backfill) outputs st.world.analytics
      (st.invoke s i plan paging).world.analytics) :
    (st.invoke s i plan paging).savedState = st.savedState :=
  (h (stateKey o.backfill)).2 (owned_stateKey _ _)

/-- What an invocation leaves in the state document. -/
theorem savedState_invoke (i : Invocation) (plan : FaultPlan) (paging : Paging)
    (hWritten : ∀ v, i = .live v → v ∈ st.versions) :
    (st.invoke s i plan paging).savedState = st.savedState ∨
      ∃ v ∈ st.versions, i = .live v ∧ (st.invoke s i plan paging).savedState =
        some (.sequencerState (some v.sequencer)) := by
  cases st.change i plan paging hWritten with
  | skipped _ hAnalytics _ => exact Or.inl (by rw [savedState, hAnalytics]; rfl)
  | interrupted _ hAnalytics _ => exact Or.inl (by rw [savedState, hAnalytics]; rfl)
  | torn v accepted _ _ _ _ hMixed _ => exact Or.inl (st.savedState_of_mixed hMixed)
  | complete v accepted _ _ _ _ hSaved _ =>
      rcases hSaved with ⟨hLive, hSaved⟩ | ⟨_, hSame⟩
      · exact Or.inr ⟨v, hWritten v hLive, hLive, hSaved⟩
      · exact Or.inl hSame

end SourceState

/-- In every run the saved sequencer is missing or that of a version. -/
theorem Reachable.savedVersion {s : IngestService} {o : RawObject} {parameter : Option Str}
    {allowed : SourceState o parameter → Invocation → FaultPlan → Paging → Prop}
    {st : SourceState o parameter} (h : Reachable s o parameter allowed st) : st.SavedVersion := by
  induction h with
  | start st _ _ _ hState => exact Or.inl hState
  | write h v hNewer ih =>
      exact ih.imp_right fun ⟨u, hu, hSaved⟩ => ⟨u, List.mem_append_left _ hu, hSaved⟩
  | @invoke st h i plan paging hWritten _ ih =>
      rcases st.savedState_invoke i plan paging hWritten with hSame | ⟨v, hv, _, hSaved⟩
      · exact ih.imp hSame.trans fun ⟨u, hu, hSaved⟩ => ⟨u, hu, hSame.trans hSaved⟩
      · exact Or.inr ⟨v, hv, hSaved⟩

section Example

def exampleObject : RawObject :=
  ⟨['b'], ['k'], exampleSource.bucket_valid, exampleSource.key_valid⟩

/-- Two versions whose only rows differ in the spelling of one user's email. -/
def olderVersion : Version := ⟨['1'], ['1'], exampleReport ['a'], rfl⟩

def newerVersion : Version := ⟨['2'], ['2'], exampleReport ['A'], rfl⟩

/-- Nothing has been written yet. -/
def exampleStart : SourceState exampleObject (some ['a']) where
  world := exampleWorld [] ∅
  versions := []
  delivered := []
  published := []
  stored := rfl
  ids_nodup := List.nodup_nil
  ordered := List.Pairwise.nil
  target := rfl

theorem exampleStart_reachable
    {allowed : SourceState exampleObject (some ['a']) → Invocation → FaultPlan → Paging → Prop} :
    Reachable exampleService exampleObject (some ['a']) allowed exampleStart :=
  .start _ rfl rfl rfl rfl

/-- Both versions have been written and no event has been delivered. -/
def exampleWritten : SourceState exampleObject (some ['a']) :=
  (exampleStart.write olderVersion nofun).write newerVersion (by
    intro u hu
    rw [List.mem_singleton.mp (show u ∈ [olderVersion] from hu)]
    decide)

theorem exampleWritten_reachable
    {allowed : SourceState exampleObject (some ['a']) → Invocation → FaultPlan → Paging → Prop} :
    Reachable exampleService exampleObject (some ['a']) allowed exampleWritten :=
  .write (.write exampleStart_reachable _ _) _ _

theorem generation_olderVersion :
    generation exampleService (some ['a']) olderVersion = .ok (exampleResult ['a']) :=
  Fallible.eq_ok_of_toOption (by decide)

theorem generation_newerVersion :
    generation exampleService (some ['a']) newerVersion = .ok (exampleResult ['A']) :=
  Fallible.eq_ok_of_toOption (by decide)

end Example

end KiroIngest
