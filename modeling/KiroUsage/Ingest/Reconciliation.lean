import KiroUsage.Ingest.Effect
import KiroUsage.Ingest.Sequencers

/-! Runs in which no call fails: the objects of the source become exactly the
outputs of the transform, whatever the bucket held before and however the
listings are split. -/
namespace KiroIngest

open Text Storage Execution ReportTransform

theorem lookup_withSequencer {source : IngestSource} {key : Str} (h : key ≠ stateKey source)
    (bucket : Bucket Str ObjectBody) :
    (withSequencer source bucket).lookup key = bucket.lookup key := by
  unfold withSequencer
  cases source.sequencer with
  | none => rfl
  | some sequencer => exact AList.lookup_insert_ne h

theorem lookup_withSequencer_stateKey {source : IngestSource} {sequencer : Str}
    (h : source.sequencer = some sequencer) (bucket : Bucket Str ObjectBody) :
    (withSequencer source bucket).lookup (stateKey source) =
      some (.sequencerState (some sequencer)) := by
  unfold withSequencer
  rw [h]
  exact AList.lookup_insert _

theorem ne_stateKey_of_isFactKey {key : Str} (h : isFactKey key = true) (source : IngestSource) :
    key ≠ stateKey source := by
  rintro rfl
  rw [isFactKey_stateKey] at h
  cases h

theorem isFactKey_of_owned {source : IngestSource} {key : Str} (h : owned source key = true) :
    isFactKey key = true :=
  (Bool.and_eq_true _ _ ▸ h : isFactKey key = true ∧ _).1

/-- The fact objects that carry a name of the source. -/
def World.outputs (w : World) (source : IngestSource) : List (Str × ObjectBody) :=
  w.analytics.select (owned source)

theorem mem_outputs {w : World} {source : IngestSource} {output : Str × ObjectBody} :
    output ∈ w.outputs source ↔
      owned source output.1 = true ∧ w.analytics.lookup output.1 = some output.2 :=
  Bucket.mem_select

theorem outputs_keys_nodup (w : World) (source : IngestSource) :
    ((w.outputs source).map Prod.fst).Nodup :=
  w.analytics.select_keys_nodup _

/-- After a reconciliation the source's objects are the outputs, each once. -/
theorem outputs_perm {source : IngestSource} {outputs : List (Str × ObjectBody)} {w : World}
    (hNodup : (outputs.map Prod.fst).Nodup)
    (hOwned : ∀ key ∈ outputs.map Prod.fst, owned source key = true)
    (hLookup : ∀ key, owned source key = true → w.analytics.lookup key = written outputs key) :
    (w.outputs source).Perm outputs := by
  rw [List.perm_ext_iff_of_nodup (outputs_keys_nodup w source).of_map hNodup.of_map]
  rintro ⟨key, body⟩
  rw [mem_outputs]
  constructor
  · rintro ⟨hKey, hBody⟩
    exact mem_of_written ((hLookup key hKey).symm.trans hBody)
  · intro hMem
    have hKey := hOwned key (List.mem_map.mpr ⟨_, hMem, rfl⟩)
    exact ⟨hKey, (hLookup key hKey).trans (written_of_mem hNodup hMem)⟩

def ObjectBody.usageRows : ObjectBody → List UsageDailyRecord
  | usageDaily rows => rows
  | _ => []

def ObjectBody.modelRows : ObjectBody → List ModelMessageRecord
  | modelMessages rows => rows
  | _ => []

/-- The outputs hold the rows of all partitions. -/
theorem usageRows_prepareOutputs (source : IngestSource) (result : TransformResult) :
    (prepareOutputs source result).flatMap (·.2.usageRows) =
      result.partitions.flatMap (·.usageDaily) := by
  rw [prepareOutputs, List.flatMap_assoc]
  congr 1
  funext p
  unfold partitionOutputs
  split_ifs <;> simp [ObjectBody.usageRows]

theorem modelRows_prepareOutputs (source : IngestSource) (result : TransformResult) :
    (prepareOutputs source result).flatMap (·.2.modelRows) =
      result.partitions.flatMap (·.modelMessages) := by
  rw [prepareOutputs, List.flatMap_assoc]
  congr 1
  funext p
  unfold partitionOutputs
  split_ifs with h
  · simp [ObjectBody.modelRows]
  · have hEmpty : p.modelMessages = [] := by simpa using h
    simp [ObjectBody.modelRows, hEmpty]

/-- A run in which no call fails skips, refuses its report or publishes. -/
theorem IngestService.processCsvAsync_healthy (s : IngestService) (source : IngestSource)
    (calls : Nat) (before : World) :
    let run := s.processCsvAsync source Plan.healthy calls before
    Frame before run.state ∧
      ((run.outcome = .returned () ∧ before.staleEvent source = .ok true ∧
          run.state.analytics = before.analytics) ∨
        (run.outcome ≠ .returned () ∧ run.state.analytics = before.analytics ∧
          ((∃ error, before.staleEvent source = .error error) ∨
            (before.staleEvent source = .ok false ∧
              ∃ error, s.transformed source before = .error error))) ∨
        ∃ result complete, run.outcome = .returned () ∧ before.staleEvent source = .ok false ∧
          s.transformed source before = .ok result ∧
          Reconciled (owned source) (prepareOutputs source result) before.analytics complete ∧
          run.state.analytics = withSequencer source complete) := by
  obtain ⟨hFrame, hEffect⟩ := s.processCsvAsync_effect source Plan.healthy calls before
  refine ⟨hFrame, ?_⟩
  cases hEffect with
  | skipped hOutcome hStale hAnalytics _ => exact Or.inl ⟨hOutcome, hStale, hAnalytics⟩
  | interrupted hOutcome hCause hAnalytics _ =>
      refine Or.inr (Or.inl ⟨hOutcome, hAnalytics, hCause.resolve_left ?_⟩)
      exact fun ⟨request, _, h⟩ => not_disturbs_healthy request h
  | torn result _ _ _ hDisturbed =>
      obtain ⟨key, _, h | h⟩ := hDisturbed
      · exact absurd h (not_disturbs_healthy _)
      · exact absurd h (not_disturbs_healthy _)
  | unsaved result complete _ _ _ hDisturbed => exact absurd hDisturbed (not_disturbs_healthy _)
  | published result complete hOutcome hStale hResult hReconciled hAnalytics _ =>
      exact Or.inr (Or.inr
        ⟨result, complete, hOutcome, hStale, hResult, hReconciled, hAnalytics⟩)

theorem savedSequencer_of_lookup {w : World} {source : IngestSource} {saved : Option Str}
    (h : w.analytics.lookup (stateKey source) = some (.sequencerState saved)) :
    w.savedSequencer source = .ok saved := by
  simp only [World.savedSequencer, World.readState, h]

/-- A live event is stale once its own sequencer is saved. -/
theorem staleEvent_of_saved {w : World} {source : IngestSource} {sequencer : Str}
    (hSequencer : source.sequencer = some sequencer)
    (h : w.analytics.lookup (stateKey source) = some (.sequencerState (some sequencer))) :
    w.staleEvent source = .ok true := by
  have hValid := source.sequencer_valid sequencer hSequencer
  unfold World.staleEvent
  rw [hSequencer]
  simp only [savedSequencer_of_lookup h]
  change isStale sequencer (some sequencer) = _
  rw [isStale_some hValid (hex_of_isSequencer hValid)]
  simp

theorem staleEvent_of_backfill {source : IngestSource} (h : source.sequencer = none) (w : World) :
    w.staleEvent source = .ok false := by
  unfold World.staleEvent
  rw [h]

theorem savedSequencer_congr {w w' : World} {source : IngestSource}
    (h : w'.analytics.lookup (stateKey source) = w.analytics.lookup (stateKey source)) :
    w'.savedSequencer source = w.savedSequencer source := by
  unfold World.savedSequencer World.readState
  rw [h]

theorem staleEvent_congr {w w' : World} {source : IngestSource}
    (h : w'.analytics.lookup (stateKey source) = w.analytics.lookup (stateKey source)) :
    w'.staleEvent source = w.staleEvent source := by
  unfold World.staleEvent
  rw [savedSequencer_congr h]

theorem transformed_congr {before after : World} (hRaw : after.raw = before.raw)
    (hTarget : after.targetListParameter = before.targetListParameter) (s : IngestService)
    (source : IngestSource) : s.transformed source after = s.transformed source before := by
  unfold IngestService.transformed World.readRaw
  rw [hRaw, hTarget]

/-- What a completed publication shows at each key. -/
theorem lookup_published {source : IngestSource} {outputs : List (Str × ObjectBody)}
    {old complete : Bucket Str ObjectBody} (h : Reconciled (owned source) outputs old complete)
    {key : Str} (hKey : key ≠ stateKey source) :
    (withSequencer source complete).lookup key =
      if owned source key then written outputs key else old.lookup key := by
  rw [lookup_withSequencer hKey]
  exact h key

/-- After a completed publication the source's objects are those of the result. -/
theorem outputs_published {s : IngestService} {source : IngestSource} {before after : World}
    {result : TransformResult} {complete : Bucket Str ObjectBody}
    (hResult : s.transformed source before = .ok result)
    (h : Reconciled (owned source) (prepareOutputs source result) before.analytics complete)
    (hAnalytics : after.analytics = withSequencer source complete) :
    (after.outputs source).Perm (prepareOutputs source result) := by
  apply outputs_perm (transformed_nodup hResult) owned_of_mem_prepareOutputs
  intro key hOwned
  rw [hAnalytics, lookup_published h (ne_stateKey_of_isFactKey (isFactKey_of_owned hOwned) source),
    if_pos hOwned]

/-- A run over its own outputs and its own saved sequencer changes nothing. -/
theorem IngestService.processCsvAsync_again (s : IngestService) (source : IngestSource) (calls : Nat)
    {w : World} {result : TransformResult} (hAccepted : s.transformed source w = .ok result)
    (hShown : ∀ key, owned source key = true →
      w.analytics.lookup key = written (prepareOutputs source result) key)
    (hSaved : ∀ sequencer, source.sequencer = some sequencer →
      w.analytics.lookup (stateKey source) = some (.sequencerState (some sequencer))) :
    let run := s.processCsvAsync source Plan.healthy calls w
    run.outcome = .returned () ∧
      ∀ key, run.state.analytics.lookup key = w.analytics.lookup key := by
  intro run
  have hStale : w.staleEvent source = .ok true ∨ source.sequencer = none := by
    cases hSequencer : source.sequencer with
    | none => exact Or.inr rfl
    | some sequencer => exact Or.inl (staleEvent_of_saved hSequencer (hSaved sequencer hSequencer))
  obtain ⟨_, ⟨hOutcome, _, hAnalytics⟩ | ⟨_, _, ⟨_, hError⟩ | ⟨_, _, hError⟩⟩ |
    ⟨result', complete, hOutcome, hFresh, hResult, hReconciled, hAnalytics⟩⟩ :=
    s.processCsvAsync_healthy source calls w
  · exact ⟨hOutcome, fun key => by rw [hAnalytics]⟩
  · rcases hStale with hStale | hNone
    · rw [hStale] at hError; cases hError
    · rw [staleEvent_of_backfill hNone] at hError; cases hError
  · rw [hAccepted] at hError; cases hError
  rw [hAccepted] at hResult
  cases hResult
  have hNone : source.sequencer = none := by
    refine hStale.resolve_left fun h => ?_
    rw [h] at hFresh
    cases hFresh
  refine ⟨hOutcome, fun key => ?_⟩
  rw [hAnalytics, withSequencer, hNone]
  dsimp only
  rw [hReconciled key]
  split_ifs with hOwned
  · exact (hShown key hOwned).symm
  · rfl

/-- Exact reconciliation: the objects with a name of the source are those of
the partitions, every row is in them once, the other fact objects stay, and a
second run changes nothing. -/
theorem IngestService.reconciles_exactly (s : IngestService) (source : IngestSource)
    (calls calls' : Nat) (w : World) (paging : Paging) {result : TransformResult}
    (hStale : w.staleEvent source = .ok false) (hAccepted : s.transformed source w = .ok result) :
    let run := s.processCsvAsync source Plan.healthy calls w
    let again := s.processCsvAsync source Plan.healthy calls' { run.state with paging }
    run.outcome = .returned () ∧
      (∀ output, output ∈ run.state.outputs source ↔ ∃ p ∈ result.partitions,
        output = (outputKey usageDailyPrefix p.date p.clientType source.bucket source.key,
          .usageDaily p.usageDaily) ∨
        (p.modelMessages ≠ [] ∧
          output = (outputKey modelMessagesPrefix p.date p.clientType source.bucket source.key,
            .modelMessages p.modelMessages))) ∧
      ((run.state.outputs source).flatMap (·.2.usageRows)).Perm
        (result.partitions.flatMap (·.usageDaily)) ∧
      ((run.state.outputs source).flatMap (·.2.modelRows)).Perm
        (result.partitions.flatMap (·.modelMessages)) ∧
      (∀ key, isFactKey key = true → isOutputOf source key = false →
        run.state.analytics.lookup key = w.analytics.lookup key) ∧
      again.outcome = .returned () ∧
      ∀ key, again.state.analytics.lookup key = run.state.analytics.lookup key := by
  intro run again
  obtain ⟨hFrame, ⟨_, hSkip, _⟩ | ⟨_, _, ⟨_, hError⟩ | ⟨_, _, hError⟩⟩ |
    ⟨result', complete, hOutcome, _, hResult, hReconciled, hAnalytics⟩⟩ :=
    s.processCsvAsync_healthy source calls w
  · rw [hStale] at hSkip; cases hSkip
  · rw [hStale] at hError; cases hError
  · rw [hAccepted] at hError; cases hError
  rw [hAccepted] at hResult
  cases hResult
  have hLookup (key : Str) (hKey : key ≠ stateKey source) : run.state.analytics.lookup key =
      if owned source key then written (prepareOutputs source result) key
      else w.analytics.lookup key := by
    rw [hAnalytics]
    exact lookup_published hReconciled hKey
  have hPerm := outputs_published hAccepted hReconciled hAnalytics
  refine ⟨hOutcome, fun output => ?_, ?_, ?_, fun key hFact hOther => ?_, ?_⟩
  · rw [hPerm.mem_iff, mem_prepareOutputs]
  · rw [← usageRows_prepareOutputs source]
    exact hPerm.flatMap_right _
  · rw [← modelRows_prepareOutputs source]
    exact hPerm.flatMap_right _
  · rw [hLookup key (ne_stateKey_of_isFactKey hFact source), owned, hFact, hOther]
    rfl
  · have hAgain : s.transformed source { run.state with paging } = .ok result :=
      (transformed_congr hFrame.raw hFrame.targetListParameter s source).trans hAccepted
    refine s.processCsvAsync_again source calls' hAgain (fun key hOwned => ?_) fun sequencer h => ?_
    · change run.state.analytics.lookup key = _
      rw [hLookup key (ne_stateKey_of_isFactKey (isFactKey_of_owned hOwned) source), if_pos hOwned]
    · change run.state.analytics.lookup (stateKey source) = _
      rw [hAnalytics]
      exact lookup_withSequencer_stateKey h complete

section Example

/-- A platform that agrees with the runtime on the texts of the example. -/
def examplePlatform : Platform where
  toUpperInvariant := Char.toUpper
  doubleTryParse := fun text => if text = ['0'] then some 0 else none
  urlDecode := id
  dateToString := DateOnly.format

def exampleService : IngestService where
  platform := examplePlatform
  rawBucket := ['b']
  rawPrefix := []
  rawBucket_valid := rfl

def exampleHeader : List Str := requiredColumns ++ ["auto_messages".toList]

/-- The row of a user on a day of June. -/
def exampleRowOf (day userId email : Str) : List Str :=
  ["2026-06-".toList ++ day, userId, "KIRO_CLI".toList, ['1'], ['0'], ['0'], ['0'], "false".toList,
    ['p'], ['t'], ['2'], "false".toList, email, ['3']]

/-- A report with one row, of the user with the given email. -/
def exampleReport (email : Str) : CsvText where
  records := [some exampleHeader, some (exampleRowOf "20".toList ['u'] email)]

def exampleResult (email : Str) : TransformResult where
  rowsRead := 1
  rowsKept := 1
  partitions := [⟨"2026-06-20".toList, "KIRO_CLI".toList,
    [⟨['u'], email, 1, 0, 0, 0, false, ['t'], 2, false, ['p']⟩], [⟨['u'], email, "auto".toList, 3⟩]⟩]

theorem exampleReport_accepted : transform examplePlatform (exampleReport ['a']) (· = ['a']) =
    .ok (exampleResult ['a']) :=
  Fallible.eq_ok_of_toOption (by decide)

/-- The services with a Target List of one user. -/
def exampleWorld (raw : List RawVersion) (analytics : Bucket Str ObjectBody) : World where
  raw := raw
  rawListing := fun _ => ⟨none, none, none⟩
  analytics := analytics
  paging := Paging.single
  targetListParameter := some ['a']
  invocations := []
  log := []
  history := []

/-- The object of the example as a backfill names it. -/
def exampleSource : IngestSource := ⟨['b'], ['k'], none, none, rfl, rfl, valid_none⟩

/-- A key of the example's source from before file names carried a hash. -/
def exampleLegacyKey (factPrefix : Str) : Str := factPrefix ++ '/' :: legacyFileName exampleSource

/-- The only row replaces what a legacy object held. -/
theorem reconciles_exactly_example :
    ((exampleService.processCsvAsync exampleSource Plan.healthy 0
      (exampleWorld [⟨['b'], ['k'], ['1'], exampleReport ['a']⟩]
        (AList.insert (exampleLegacyKey usageDailyPrefix) (.bytes []) ∅))).state.outputs
          exampleSource |>.flatMap (·.2.usageRows)).Perm
      [⟨['u'], ['a'], 1, 0, 0, 0, false, ['t'], 2, false, ['p']⟩] := by
  have hAccepted : exampleService.transformed exampleSource
      (exampleWorld [⟨['b'], ['k'], ['1'], exampleReport ['a']⟩]
        (AList.insert (exampleLegacyKey usageDailyPrefix) (.bytes []) ∅)) =
      .ok (exampleResult ['a']) :=
    Fallible.eq_ok_of_toOption (by decide)
  exact (exampleService.reconciles_exactly exampleSource 0 0 _ Paging.single rfl hAccepted).2.2.1

end Example

end KiroIngest
