import KiroUsage.Ingest.Reconciliation

/-! Two sources. A run for one changes only the objects with its own two names
and its own state document. The current names of two sources differ, but the
legacy name of one may be the current name of the other. -/
namespace KiroIngest

open Text Storage Execution ReportTransform

/-- Objects with other names, and other state documents, stay as they are. -/
theorem Effect.lookup_other {s : IngestService} {plan : FaultPlan} {source : IngestSource}
    {before after : World} {outcome : Outcome Exn Unit}
    (h : Effect s plan source before outcome after) {key : Str} (hOwned : owned source key = false)
    (hState : key ≠ stateKey source) : after.analytics.lookup key = before.analytics.lookup key := by
  have hComplete {result : TransformResult} {complete : Bucket Str ObjectBody}
      (hReconciled : Reconciled (owned source) (prepareOutputs source result) before.analytics complete) :
      complete.lookup key = before.analytics.lookup key := by
    rw [hReconciled key, hOwned]
    rfl
  cases h with
  | skipped _ _ hAnalytics _ => rw [hAnalytics]
  | interrupted _ _ hAnalytics _ => rw [hAnalytics]
  | torn result _ _ _ _ hMixed _ _ => exact (hMixed key).2 hOwned
  | unsaved result complete _ _ _ _ hReconciled hAnalytics _ =>
      rcases hAnalytics with hAnalytics | hAnalytics
      · rw [hAnalytics, hComplete hReconciled]
      · rw [hAnalytics, lookup_withSequencer hState, hComplete hReconciled]
  | published result complete _ _ _ hReconciled hAnalytics _ =>
      rw [hAnalytics, lookup_withSequencer hState, hComplete hReconciled]

/-- A fact object is gone, is the prior one, or is an output of the transform. -/
theorem Effect.lookup_cases {s : IngestService} {plan : FaultPlan} {source : IngestSource}
    {before after : World} {outcome : Outcome Exn Unit}
    (h : Effect s plan source before outcome after) {key : Str} (hFact : isFactKey key = true) :
    after.analytics.lookup key = none ∨
      after.analytics.lookup key = before.analytics.lookup key ∨
      ∃ result body, s.transformed source before = .ok result ∧
        (key, body) ∈ prepareOutputs source result ∧ after.analytics.lookup key = some body := by
  cases hOwned : owned source key with
  | false => exact Or.inr (Or.inl (h.lookup_other hOwned (ne_stateKey_of_isFactKey hFact source)))
  | true =>
      have hNew {result : TransformResult} (hResult : s.transformed source before = .ok result)
          (hWritten : after.analytics.lookup key = written (prepareOutputs source result) key) :
          after.analytics.lookup key = none ∨
            after.analytics.lookup key = before.analytics.lookup key ∨
            ∃ result body, s.transformed source before = .ok result ∧
              (key, body) ∈ prepareOutputs source result ∧ after.analytics.lookup key = some body := by
        cases hBody : written (prepareOutputs source result) key with
        | none => exact Or.inl (hWritten.trans hBody)
        | some body =>
            exact Or.inr (Or.inr ⟨result, body, hResult, mem_of_written hBody, hWritten.trans hBody⟩)
      have hComplete {result : TransformResult} {complete : Bucket Str ObjectBody}
          (hReconciled : Reconciled (owned source) (prepareOutputs source result) before.analytics
            complete) : complete.lookup key = written (prepareOutputs source result) key := by
        rw [hReconciled key, hOwned]
        rfl
      cases h with
      | skipped _ _ hAnalytics _ => exact Or.inr (Or.inl (by rw [hAnalytics]))
      | interrupted _ _ hAnalytics _ => exact Or.inr (Or.inl (by rw [hAnalytics]))
      | torn result _ _ hResult _ hMixed _ _ =>
          rcases (hMixed key).1 hOwned with hNone | hOld | hWritten
          · exact Or.inl hNone
          · exact Or.inr (Or.inl hOld)
          · exact hNew hResult hWritten
      | unsaved result complete _ _ hResult _ hReconciled hAnalytics _ =>
          refine hNew hResult ?_
          rcases hAnalytics with hAnalytics | hAnalytics
          · rw [hAnalytics, hComplete hReconciled]
          · rw [hAnalytics, lookup_withSequencer (ne_stateKey_of_isFactKey hFact source),
              hComplete hReconciled]
      | published result complete _ _ hResult hReconciled hAnalytics _ =>
          refine hNew hResult ?_
          rw [hAnalytics, lookup_withSequencer (ne_stateKey_of_isFactKey hFact source),
            hComplete hReconciled]

/-- A run that returns for a source without a sequencer has published. -/
theorem Effect.published_of_returned {s : IngestService} {plan : FaultPlan} {source : IngestSource}
    {before after : World} {outcome : Outcome Exn Unit}
    (h : Effect s plan source before outcome after) (hReturned : outcome = .returned ())
    (hBackfill : source.sequencer = none) :
    ∃ result, s.transformed source before = .ok result ∧ ∀ key, owned source key = true →
      after.analytics.lookup key = written (prepareOutputs source result) key := by
  cases h with
  | skipped _ hStale _ _ => cases (staleEvent_of_backfill hBackfill before).symm.trans hStale
  | interrupted hOutcome _ _ _ => exact absurd hReturned hOutcome
  | torn _ hOutcome _ _ _ _ _ _ => exact absurd hReturned hOutcome
  | unsaved _ _ hOutcome _ _ _ _ _ _ => exact absurd hReturned hOutcome
  | published result complete _ _ hResult hReconciled hAnalytics _ =>
      refine ⟨result, hResult, fun key hOwned => ?_⟩
      have hKey := ne_stateKey_of_isFactKey (isFactKey_of_owned hOwned) source
      rw [hAnalytics, lookup_withSequencer hKey, hReconciled key, if_pos hOwned]

/-- The part of the source's identity that is in its file name. -/
def shortSourceId (source : IngestSource) : Str := (sourceId source.bucket source.key).take 16

theorem shortSourceId_length (source : IngestSource) : (shortSourceId source).length = 16 := by
  simp [shortSourceId, sourceId]

theorem currentFileName_ne {a b : IngestSource} (h : shortSourceId a ≠ shortSourceId b) :
    currentFileName a ≠ currentFileName b := by
  intro hName
  have hStem := List.append_cancel_right hName
  have hLength : (shortSourceId a).length = (shortSourceId b).length := by
    rw [shortSourceId_length, shortSourceId_length]
  obtain ⟨_, hTail⟩ := List.append_inj' hStem (congrArg Nat.succ hLength)
  exact h (List.cons.inj hTail).2

/-- The legacy name of one source is the current name of another when its base
name ends in the other's hash. -/
theorem legacyFileName_eq_iff {a b : IngestSource} :
    legacyFileName a = currentFileName b ↔ baseName a.key = baseName b.key ++ '-' :: shortSourceId b :=
  List.append_left_inj _

/-- Neither source publishes under a name of the other. They may share a legacy name. -/
def NamesApart (a b : IngestSource) : Prop :=
  currentFileName a ≠ currentFileName b ∧ legacyFileName a ≠ currentFileName b ∧
    legacyFileName b ≠ currentFileName a

instance (a b : IngestSource) : Decidable (NamesApart a b) :=
  inferInstanceAs (Decidable (_ ∧ _ ∧ _))

section NamesApart

variable {a b : IngestSource}

theorem NamesApart.symm (h : NamesApart a b) : NamesApart b a := ⟨h.1.symm, h.2.2, h.2.1⟩

/-- No output of one source has a name of the other. -/
theorem NamesApart.not_mem_outputs (h : NamesApart a b) {key : Str} (hOwned : owned b key = true)
    {body : ObjectBody} {result : TransformResult} : (key, body) ∉ prepareOutputs a result := by
  intro hm
  have hName : getFileName key = currentFileName a := getFileName_of_mem hm
  rw [owned, isOutputOf, hName, Bool.and_eq_true, Bool.or_eq_true, beq_iff_eq, beq_iff_eq] at hOwned
  rcases hOwned.2 with hCurrent | hLegacy
  · exact h.1 hCurrent
  · exact h.2.2 hLegacy.symm

/-- A run for one source leaves the shown outputs of the other as they are: under a
legacy name that they share neither has an output. -/
theorem NamesApart.outputs_kept (h : NamesApart a b) {s : IngestService} {plan : FaultPlan}
    {before after : World} {outcome : Outcome Exn Unit} (hEffect : Effect s plan a before outcome after)
    {result : TransformResult} (hShown : ∀ key, owned b key = true →
      before.analytics.lookup key = written (prepareOutputs b result) key) :
    ∀ key, owned b key = true → after.analytics.lookup key = written (prepareOutputs b result) key := by
  intro key hOwned
  have hFact := isFactKey_of_owned hOwned
  cases hShared : owned a key with
  | false => rw [hEffect.lookup_other hShared (ne_stateKey_of_isFactKey hFact a), hShown key hOwned]
  | true =>
      rcases hEffect.lookup_cases hFact with hNone | hSame | ⟨_, body, _, hOutput, _⟩
      · rw [hNone]
        symm
        rw [written_eq_none]
        intro hm
        obtain ⟨⟨_, body⟩, hOutput, rfl⟩ := List.mem_map.mp hm
        exact h.symm.not_mem_outputs hShared hOutput
      · rw [hSame, hShown key hOwned]
      · exact absurd hOutput (h.not_mem_outputs hOwned)

end NamesApart

/-- The keys under which a source publishes. -/
def IsOutputKey (source : IngestSource) (key : Str) : Prop :=
  ∃ (factPrefix : Str) (date : DateOnly) (clientType : Str),
    (factPrefix = usageDailyPrefix ∨ factPrefix = modelMessagesPrefix) ∧
    clientType ∈ supportedClientTypes ∧
    key = outputKey factPrefix date.format clientType source.bucket source.key

theorem IsOutputKey.isFactKey {source : IngestSource} {key : Str} (h : IsOutputKey source key) :
    isFactKey key = true := by
  obtain ⟨_, _, _, hPrefix, _, rfl⟩ := h
  exact isFactKey_outputKey hPrefix _ _ _ _

theorem IsOutputKey.getFileName_eq {source : IngestSource} {key : Str} (h : IsOutputKey source key) :
    getFileName key = currentFileName source := by
  obtain ⟨_, _, _, _, _, rfl⟩ := h
  exact getFileName_outputKey _ _ _ _ _

/-- A source owns the output keys of another exactly when their names meet. -/
theorem owned_other_iff {a b : IngestSource} (hHash : shortSourceId a ≠ shortSourceId b) {key : Str}
    (hKey : IsOutputKey b key) :
    owned a key = true ↔ baseName a.key = baseName b.key ++ '-' :: shortSourceId b := by
  rw [← legacyFileName_eq_iff, owned, hKey.isFactKey, isOutputOf, hKey.getFileName_eq]
  rw [Bool.true_and, Bool.or_eq_true, beq_iff_eq, beq_iff_eq]
  constructor
  · rintro (hCurrent | hLegacy)
    · exact absurd hCurrent.symm (currentFileName_ne hHash)
    · exact hLegacy.symm
  · exact fun h => Or.inr h.symm

/-- A header with no rows. -/
def emptyReport : CsvText := ⟨[some requiredColumns], none⟩

theorem transform_emptyReport (platform : Platform) (targetList : Str → Bool) :
    transform platform emptyReport targetList = .ok ⟨0, 0, []⟩ := by
  have hHeader : readHeader 0 requiredColumns [] [] =
      .ok (requiredColumns.zipIdx, []) := Fallible.eq_ok_of_toOption (by decide)
  have hRequired : requireColumns requiredColumns.zipIdx requiredColumns = .ok () :=
    Fallible.eq_ok_of_toOption (by decide)
  have hParse : Csv.parse emptyReport = .ok (requiredColumns, []) :=
    Fallible.eq_ok_of_toOption (by decide)
  have hLength : requiredColumns.length ≠ 0 := by decide
  unfold transform
  rw [hParse, Fallible.ok_bind]
  dsimp only
  rw [if_neg hLength, hHeader, Fallible.ok_bind]
  dsimp only
  rw [hRequired]
  rfl

/-- A world in which a source has an empty report and the bucket one object. -/
def emptyReportWorld (source : IngestSource) (key : Str) : World :=
  exampleWorld [⟨source.bucket, source.key, source.versionId.getD [], emptyReport⟩]
    (AList.insert key (.usageDaily []) ∅)

theorem transformed_emptyReport (s : IngestService) (source : IngestSource) (key : Str) :
    s.transformed source (emptyReportWorld source key) = .ok ⟨0, 0, []⟩ := by
  have hRead : (emptyReportWorld source key).readRaw source.bucket source.key source.versionId =
      .ok emptyReport := by
    cases hVersion : source.versionId <;>
      simp [World.readRaw, emptyReportWorld, exampleWorld, hVersion]
  have hTarget : ∃ targetList, parseTargetList s.platform
      (emptyReportWorld source key).targetListParameter = .ok targetList := ⟨_, rfl⟩
  obtain ⟨targetList, hTarget⟩ := hTarget
  unfold IngestService.transformed
  rw [hRead, Fallible.ok_bind, hTarget, Fallible.ok_bind, transform_emptyReport]

theorem staleEvent_of_absent {w : World} {source : IngestSource}
    (h : w.analytics.lookup (stateKey source) = none) : w.staleEvent source = .ok false := by
  unfold World.staleEvent
  cases source.sequencer with
  | none => rfl
  | some sequencer =>
      simp only [World.savedSequencer, World.readState, h]
      rfl

/-- An owned object does not survive an empty report. -/
theorem removed_by_emptyReport (s : IngestService) {source : IngestSource} {key : Str}
    (hOwned : owned source key = true) :
    (s.processCsvAsync source Plan.healthy 0 (emptyReportWorld source key)).state.analytics.lookup key
      = none := by
  have hKey := ne_stateKey_of_isFactKey (isFactKey_of_owned hOwned) source
  have hFresh : (emptyReportWorld source key).staleEvent source = .ok false :=
    staleEvent_of_absent ((AList.lookup_insert_ne hKey.symm).trans (AList.lookup_empty _))
  have hResult := transformed_emptyReport s source key
  obtain ⟨_, ⟨_, hSkip, _⟩ | ⟨_, _, ⟨_, hError⟩ | ⟨_, _, hError⟩⟩ |
    ⟨result, complete, _, _, hResult', hReconciled, hAnalytics⟩⟩ :=
    s.processCsvAsync_healthy source 0 (emptyReportWorld source key)
  · rw [hFresh] at hSkip; cases hSkip
  · rw [hFresh] at hError; cases hError
  · rw [hResult] at hError; cases hError
  rw [hResult] at hResult'
  cases hResult'
  rw [hAnalytics, lookup_withSequencer hKey, hReconciled key, if_pos hOwned]
  rfl

/-- Runs for one source leave every output of another as it is, whatever the
bucket holds, the report says and the calls do, exactly when its base name is
not the other's base name followed by the other's hash. -/
theorem IngestService.isolated_iff (s : IngestService) (a b : IngestSource)
    (hHash : shortSourceId a ≠ shortSourceId b) :
    (∀ w plan calls key, IsOutputKey b key →
      (s.processCsvAsync a plan calls w).state.analytics.lookup key = w.analytics.lookup key) ↔
      baseName a.key ≠ baseName b.key ++ '-' :: shortSourceId b := by
  constructor
  · intro hIsolated hName
    obtain ⟨key, hKey⟩ : ∃ key, IsOutputKey b key :=
      ⟨_, _, ⟨2026, 6, 20, by decide, by decide, by decide⟩, _, Or.inl rfl, List.mem_cons_self, rfl⟩
    have hKept := hIsolated (emptyReportWorld a key) Plan.healthy 0 key hKey
    rw [removed_by_emptyReport s ((owned_other_iff hHash hKey).mpr hName)] at hKept
    have hPresent : (AList.insert key (.usageDaily []) ∅ : Bucket Str ObjectBody).lookup key =
        some (.usageDaily []) := AList.lookup_insert _
    exact absurd (hKept.trans hPresent) nofun
  · intro hName w plan calls key hKey
    have hOther : owned a key = false := by
      rw [← Bool.not_eq_true, owned_other_iff hHash hKey]
      exact hName
    exact (s.processCsvAsync_effect a plan calls w).2.lookup_other hOther
      (ne_stateKey_of_isFactKey hKey.isFactKey a)

/-- A source whose base name is that of the example source followed by its hash. -/
def exampleTwin : IngestSource :=
  ⟨['b'], 'k' :: '-' :: shortSourceId exampleSource ++ ".csv".toList, none, none,
    exampleSource.bucket_valid, rfl, valid_none⟩

theorem isolated_iff_example :
    (∀ w plan calls key, IsOutputKey exampleSource key →
      (exampleService.processCsvAsync exampleTwin plan calls w).state.analytics.lookup key =
        w.analytics.lookup key) ↔
      baseName exampleTwin.key ≠ baseName exampleSource.key ++ '-' :: shortSourceId exampleSource :=
  exampleService.isolated_iff exampleTwin exampleSource (by decide +kernel)

/-- Both sources with a report of one row. -/
def twinWorld : World :=
  exampleWorld [⟨['b'], ['k'], ['1'], exampleReport ['a']⟩,
    ⟨['b'], exampleTwin.key, ['1'], exampleReport ['a']⟩] ∅

/-- The key of the only row of the example source. -/
def exampleOutputKey : Str :=
  outputKey usageDailyPrefix "2026-06-20".toList "KIRO_CLI".toList ['b'] ['k']

/-- What the example source has published is removed by a run for its twin. -/
theorem isolated_fails :
    let published := (exampleService.processCsvAsync exampleSource Plan.healthy 0 twinWorld).state
    let after := (exampleService.processCsvAsync exampleTwin Plan.healthy 0 published).state
    shortSourceId exampleTwin ≠ shortSourceId exampleSource ∧
      (published.analytics.lookup exampleOutputKey).isSome = true ∧
      after.analytics.lookup exampleOutputKey = none := by
  decide +kernel

end KiroIngest
