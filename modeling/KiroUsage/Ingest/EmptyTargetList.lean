import KiroUsage.Ingest.Reference

/-! A Target List parameter without an email. A blank one is refused. One that is
not blank but has only commas and white space makes every acceptable report look
as if all its users had been removed. -/
namespace KiroIngest

open Text Storage Execution ReportTransform Fallible

/-- The emails of a parameter value: split at the commas, trimmed, empty entries
left out. -/
def targetEmails (value : Option Str) : List Str :=
  (((value.getD []).splitOn ',').map trim).filter (· ≠ [])

/-- The checks that a report passes when no row is kept. -/
def Acceptable (csv : CsvText) : Prop :=
  ∃ header rows, Csv.parse csv = .ok (header, rows) ∧ HeaderAccepted header ∧
    ∀ row ∈ rows, row.length = header.length ∧ isBlank (valueOf header row colUserEmail) = false

/-- The run stops before it writes: the parameter is blank, or the report cannot
be read or is refused whatever the Target List is. -/
def Stopped (source : IngestSource) (w : World) : Prop :=
  isNullOrWhiteSpace w.targetListParameter = true ∨
    ∀ csv, w.readRaw source.bucket source.key source.versionId = .ok csv → ¬Acceptable csv

section

variable {platform : Platform} {value : Option Str}

theorem parseTargetList_eq_ok_iff_of_empty (hEmpty : targetEmails value = [])
    {targetList : Str → Bool} : parseTargetList platform value = .ok targetList ↔
      isNullOrWhiteSpace value = false ∧ targetList = fun _ => false := by
  unfold parseTargetList
  split_ifs with hBlank
  · exact ⟨nofun, fun h => by rw [hBlank] at h; cases h.1⟩
  · change Except.ok (fun email => (targetEmails value).any _) = _ ↔ _
    rw [hEmpty, Except.ok.injEq]
    exact ⟨fun h => ⟨(Bool.not_eq_true _).mp hBlank, h.symm⟩, fun h => h.2.symm⟩

/-- Without Target Users an accepted report is acceptable and gives no partition. -/
theorem transform_nobody_eq_ok {csv : CsvText} {result : TransformResult}
    (h : transform platform csv (fun _ => false) = .ok result) :
    Acceptable csv ∧ result.partitions = [] := by
  cases hParse : Csv.parse csv with
  | error error =>
      unfold transform at h
      rw [hParse] at h
      cases h
  | ok read =>
      obtain ⟨hHeader, hRows, targets, hReads, _, rfl⟩ := (transform_eq_ok_iff hParse _ _).mp h
      rw [List.filter_eq_nil_iff.mpr fun _ _ => Bool.false_ne_true] at hReads
      cases hReads
      exact ⟨⟨read.1, read.2, hParse, hHeader, hRows⟩, rfl⟩

theorem transform_nobody_iff {csv : CsvText} :
    (∃ result, transform platform csv (fun _ => false) = .ok result) ↔ Acceptable csv := by
  constructor
  · exact fun ⟨_, hResult⟩ => (transform_nobody_eq_ok hResult).1
  · rintro ⟨header, rows, hParse, hHeader, hRows⟩
    refine ⟨reference rows [], (transform_eq_ok_iff hParse _ _).mpr
      ⟨hHeader, hRows, [], ?_, List.nodup_nil, rfl⟩⟩
    rw [List.filter_eq_nil_iff.mpr fun _ _ => Bool.false_ne_true]
    exact .nil

theorem transformed_eq_ok_iff_of_empty {s : IngestService} {source : IngestSource} {w : World}
    (hEmpty : targetEmails w.targetListParameter = []) :
    (∃ result, s.transformed source w = .ok result) ↔ ¬Stopped source w := by
  unfold Stopped IngestService.transformed
  simp only [bind_eq_ok, parseTargetList_eq_ok_iff_of_empty hEmpty]
  constructor
  · rintro ⟨result, csv, hCsv, _, ⟨hValue, rfl⟩, hResult⟩ (hBlank | hRefused)
    · rw [hBlank] at hValue
      cases hValue
    · exact hRefused csv hCsv (transform_nobody_iff.mp ⟨result, hResult⟩)
  · intro h
    rw [not_or, not_forall] at h
    obtain ⟨hValue, csv, hAccepted⟩ := h
    rw [Classical.not_imp, not_not] at hAccepted
    obtain ⟨result, hResult⟩ := transform_nobody_iff.mpr hAccepted.2
    exact ⟨result, csv, hAccepted.1, _, ⟨(Bool.not_eq_true _).mp hValue, rfl⟩, hResult⟩

end

namespace IngestService

variable (s : IngestService) (source : IngestSource)

/-- A run that is stopped leaves the bucket as it is, whichever calls fail. -/
theorem processCsvAsync_stopped (plan : FaultPlan) (calls : Nat) {w : World}
    (hStale : w.staleEvent source = .ok false) (hEmpty : targetEmails w.targetListParameter = [])
    (hStopped : Stopped source w) :
    let run := s.processCsvAsync source plan calls w
    run.outcome ≠ .returned () ∧ run.state.analytics = w.analytics ∧
      (run.outcome = .killed → DisturbsReads plan) := by
  intro run
  have hNever (result : TransformResult) : s.transformed source w ≠ .ok result := fun h =>
    (transformed_eq_ok_iff_of_empty hEmpty).mp ⟨result, h⟩ hStopped
  obtain ⟨_, hEffect⟩ := s.processCsvAsync_effect source plan calls w
  cases hEffect with
  | skipped _ hSkipped _ _ => rw [hStale] at hSkipped; cases hSkipped
  | interrupted hOutcome _ hAnalytics _ hKilled => exact ⟨hOutcome, hAnalytics, hKilled⟩
  | torn result _ _ hResult _ _ _ _ => exact absurd hResult (hNever result)
  | unsaved result _ _ _ hResult _ _ _ _ => exact absurd hResult (hNever result)
  | published result _ _ _ hResult _ _ _ => exact absurd hResult (hNever result)

/-- A run that is not stopped returns, and removes every object of its source. -/
theorem processCsvAsync_erases (calls : Nat) {w : World} (hStale : w.staleEvent source = .ok false)
    (hEmpty : targetEmails w.targetListParameter = []) (hAccepted : ¬Stopped source w) :
    let run := s.processCsvAsync source Plan.healthy calls w
    run.outcome = .returned () ∧
      ∀ key, owned source key = true → run.state.analytics.lookup key = none := by
  intro run
  obtain ⟨result, hResult⟩ := (transformed_eq_ok_iff_of_empty (s := s) hEmpty).mpr hAccepted
  have hOutputs : prepareOutputs source result = [] := by
    obtain ⟨csv, targetList, _, hTarget, hTransform⟩ := transformed_eq_ok hResult
    rw [((parseTargetList_eq_ok_iff_of_empty hEmpty).mp hTarget).2] at hTransform
    rw [prepareOutputs, (transform_nobody_eq_ok hTransform).2, List.flatMap_nil]
  obtain ⟨_, ⟨_, hSkipped, _⟩ | ⟨_, _, ⟨_, hError⟩ | ⟨_, _, hError⟩⟩ |
    ⟨result', complete, hOutcome, _, hResult', hReconciled, hAnalytics⟩⟩ :=
    s.processCsvAsync_healthy source calls w
  · rw [hStale] at hSkipped; cases hSkipped
  · rw [hStale] at hError; cases hError
  · rw [hResult] at hError; cases hError
  rw [hResult] at hResult'
  cases hResult'
  refine ⟨hOutcome, fun key hOwned => ?_⟩
  rw [hAnalytics, lookup_published hReconciled
    (ne_stateKey_of_isFactKey (isFactKey_of_owned hOwned) source), if_pos hOwned, hOutputs]
  rfl

/-- An effectively empty Target List. A run for an event that is not stale throws
and leaves every object unchanged if and only if it is stopped; if it is, then
no failing call changes anything either. -/
theorem empty_list_safe_iff (calls : Nat) {w : World} (hStale : w.staleEvent source = .ok false)
    (hEmpty : targetEmails w.targetListParameter = []) :
    (((∃ error, (s.processCsvAsync source Plan.healthy calls w).outcome = .threw error) ∧
        ∀ key, (s.processCsvAsync source Plan.healthy calls w).state.analytics.lookup key =
          w.analytics.lookup key) ↔ Stopped source w) ∧
      (Stopped source w → ∀ plan, (s.processCsvAsync source plan calls w).outcome ≠ .returned () ∧
        ∀ key, (s.processCsvAsync source plan calls w).state.analytics.lookup key =
          w.analytics.lookup key) := by
  refine ⟨⟨fun ⟨⟨error, hThrew⟩, _⟩ => ?_, fun hStopped => ?_⟩, fun hStopped plan => ?_⟩
  · by_contra hAccepted
    rw [(s.processCsvAsync_erases source calls hStale hEmpty hAccepted).1] at hThrew
    cases hThrew
  · obtain ⟨hOutcome, hAnalytics, hKilled⟩ :=
      s.processCsvAsync_stopped source Plan.healthy calls hStale hEmpty hStopped
    refine ⟨?_, fun key => by rw [hAnalytics]⟩
    cases hRun : (s.processCsvAsync source Plan.healthy calls w).outcome with
    | returned value => exact absurd hRun hOutcome
    | threw error => exact ⟨error, rfl⟩
    | killed =>
        obtain ⟨request, _, hDisturbed⟩ := hKilled hRun
        exact absurd hDisturbed (not_disturbs_healthy request)
  · obtain ⟨hOutcome, hAnalytics, _⟩ :=
      s.processCsvAsync_stopped source plan calls hStale hEmpty hStopped
    exact ⟨hOutcome, fun key => by rw [hAnalytics]⟩

end IngestService

section Example

/-- A published object, and a parameter with the given value. -/
def publishedWorld (value : Str) : World where
  raw := [⟨['b'], ['k'], ['1'], exampleReport ['a']⟩]
  rawListing := fun _ => ⟨none, none, none⟩
  analytics := AList.insert (exampleLegacyKey usageDailyPrefix) (.usageDaily []) ∅
  paging := Paging.single
  targetListParameter := some value
  invocations := []
  log := []
  history := []

theorem empty_list_safe_iff_example :
    ∃ error, (exampleService.processCsvAsync exampleSource Plan.healthy 0
      (publishedWorld [' '])).outcome = .threw error := by
  have hSource : exampleSource.sequencer = none := rfl
  exact ((exampleService.empty_list_safe_iff exampleSource 0
    (staleEvent_of_backfill hSource (publishedWorld [' '])) (by decide)).1.mpr
      (Or.inl (by decide))).1

/-- The run returns, and the published object is gone. -/
theorem comma_erases :
    let before := publishedWorld [',']
    let run := exampleService.processCsvAsync exampleSource Plan.healthy 0 before
    before.staleEvent exampleSource = .ok false ∧ targetEmails before.targetListParameter = [] ∧
      (before.analytics.lookup (exampleLegacyKey usageDailyPrefix)).isSome = true ∧
      run.outcome = .returned () ∧
      run.state.analytics.lookup (exampleLegacyKey usageDailyPrefix) = none := by
  intro before run
  have hSource : exampleSource.sequencer = none := rfl
  have hStale := staleEvent_of_backfill hSource before
  have hEmpty : targetEmails before.targetListParameter = [] := by decide
  have hAccepted : ¬Stopped exampleSource before := by
    rw [← transformed_eq_ok_iff_of_empty (s := exampleService) hEmpty]
    exact ⟨⟨1, 0, []⟩, Fallible.eq_ok_of_toOption (by decide)⟩
  obtain ⟨hOutcome, hGone⟩ :=
    exampleService.processCsvAsync_erases exampleSource 0 hStale hEmpty hAccepted
  refine ⟨hStale, hEmpty, by decide, hOutcome, hGone _ ?_⟩
  decide

end Example

end KiroIngest
