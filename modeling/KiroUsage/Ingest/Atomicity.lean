import KiroUsage.Ingest.Reconciliation

/-! What a single run leaves visible when calls fail. Once a write has been
attempted a failing run withdraws everything it knows of. A new generation
without any output attempts no write, so its removals are not covered. -/
namespace KiroIngest

open Text Storage Execution ReportTransform

/-- The objects of the source are the prior ones, the complete new ones, or
there are none. -/
def AllOrNothing (s : IngestService) (source : IngestSource) (before after : World) : Prop :=
  (∀ key, owned source key = true → after.analytics.lookup key = before.analytics.lookup key) ∨
  (∃ result, s.transformed source before = .ok result ∧ ∀ key, owned source key = true →
    after.analytics.lookup key = written (prepareOutputs source result) key) ∨
  ∀ key, owned source key = true → after.analytics.lookup key = none

/-- The run replaces two or more objects by none. -/
def RemovesSeveral (s : IngestService) (source : IngestSource) (before : World) : Prop :=
  before.staleEvent source = .ok false ∧
    (∃ result, s.transformed source before = .ok result ∧ result.partitions = []) ∧
    2 ≤ (before.outputs source).length

theorem prepareOutputs_eq_nil {source : IngestSource} {result : TransformResult} :
    prepareOutputs source result = [] ↔ result.partitions = [] := by
  unfold prepareOutputs
  cases result.partitions with
  | nil => simp
  | cons p rest => simp [partitionOutputs]

/-- With at most one prior object, removing some of them is removing all or
none of them. -/
theorem untouched_or_gone {source : IngestSource} {before after : World}
    (hCount : (before.outputs source).length < 2)
    (hMixed : Mixed (owned source) [] before.analytics after.analytics) :
    (∀ key, owned source key = true → after.analytics.lookup key = before.analytics.lookup key) ∨
      ∀ key, owned source key = true → after.analytics.lookup key = none := by
  have hKey (key : Str) (hOwned : owned source key = true) :
      after.analytics.lookup key = none ∨
        after.analytics.lookup key = before.analytics.lookup key := by
    rcases (hMixed key).1 hOwned with h | h | h
    · exact Or.inl h
    · exact Or.inr h
    · exact Or.inl h
  by_contra hNeither
  simp only [not_or, not_forall] at hNeither
  obtain ⟨⟨gone, hGoneOwned, hGone⟩, left, hLeftOwned, hLeft⟩ := hNeither
  have hNone := (hKey gone hGoneOwned).resolve_right hGone
  have hSame := (hKey left hLeftOwned).resolve_left hLeft
  obtain ⟨goneBody, hGoneBody⟩ := Option.ne_none_iff_exists'.mp fun h => hGone (hNone.trans h.symm)
  obtain ⟨leftBody, hLeftBody⟩ := Option.ne_none_iff_exists'.mp fun h => hLeft (hSame.trans h)
  have hGoneMem : (gone, goneBody) ∈ before.outputs source := mem_outputs.mpr ⟨hGoneOwned, hGoneBody⟩
  have hLeftMem : (left, leftBody) ∈ before.outputs source := mem_outputs.mpr ⟨hLeftOwned, hLeftBody⟩
  have hEq : (gone, goneBody) = (left, leftBody) := by
    match hOutputs : before.outputs source with
    | [] => rw [hOutputs] at hGoneMem; cases hGoneMem
    | [only] =>
        rw [hOutputs, List.mem_singleton] at hGoneMem hLeftMem
        rw [hGoneMem, hLeftMem]
    | _ :: _ :: _ => rw [hOutputs, List.length_cons, List.length_cons] at hCount; omega
  cases hEq
  exact hLeft hNone

/-- A run that is not killed and whose clean-up works leaves all or nothing,
unless it replaces several objects by none. -/
theorem Effect.allOrNothing {s : IngestService} {plan : FaultPlan} {source : IngestSource}
    {before after : World} {outcome : Outcome Exn Unit}
    (h : Effect s plan source before outcome after) (hAlive : outcome ≠ .killed)
    (hCleanup : after.cleanupErrors = before.cleanupErrors)
    (hSafe : ¬RemovesSeveral s source before) : AllOrNothing s source before after := by
  have hComplete {result : TransformResult} {complete : Bucket Str ObjectBody}
      (hResult : s.transformed source before = .ok result)
      (hReconciled : Reconciled (owned source) (prepareOutputs source result) before.analytics complete)
      (hAnalytics : after.analytics = complete ∨ after.analytics = withSequencer source complete) :
      AllOrNothing s source before after := by
    refine Or.inr (Or.inl ⟨result, hResult, fun key hOwned => ?_⟩)
    have hKey := ne_stateKey_of_isFactKey (isFactKey_of_owned hOwned) source
    have hShown := hReconciled key
    rw [if_pos hOwned] at hShown
    rcases hAnalytics with hAnalytics | hAnalytics
    · rw [hAnalytics, hShown]
    · rw [hAnalytics, lookup_withSequencer hKey, hShown]
  cases h with
  | skipped _ _ hAnalytics _ => exact Or.inl fun key _ => by rw [hAnalytics]
  | interrupted _ _ hAnalytics _ => exact Or.inl fun key _ => by rw [hAnalytics]
  | torn result _ hStale hResult _ hMixed hWithdraw _ =>
      by_cases hOutputs : prepareOutputs source result = []
      · have hCount : (before.outputs source).length < 2 := by
          by_contra hMany
          exact hSafe ⟨hStale, ⟨result, hResult, prepareOutputs_eq_nil.mp hOutputs⟩, not_lt.mp hMany⟩
        rw [hOutputs] at hMixed
        exact (untouched_or_gone hCount hMixed).imp_right Or.inr
      · have hGone := hWithdraw hAlive hOutputs hCleanup
        refine Or.inr (Or.inr fun key hOwned => ?_)
        rw [hGone key, if_pos hOwned]
  | unsaved result complete _ _ hResult _ hReconciled hAnalytics _ =>
      exact hComplete hResult hReconciled hAnalytics
  | published result complete _ _ hResult hReconciled hAnalytics _ =>
      exact hComplete hResult hReconciled (Or.inr hAnalytics)

/-- The environment in which exactly one request fails, without effect. -/
def failOnly (request : AwsCall) : FaultPlan := fun _ other =>
  if other = request then .fail ⟨.amazonS3 503 "SlowDown".toList, slowDown_not_missing⟩ false else .pass

theorem disturbs_failOnly {request other : AwsCall} (h : Disturbs (failOnly request) other) :
    other = request := by
  obtain ⟨calls, hCall⟩ := h
  by_contra hne
  exact hCall (if_neg hne)

theorem not_disturbsReads_failOnly_delete (key : Str) :
    ¬DisturbsReads (failOnly (.deleteObject key)) := by
  rintro ⟨request, hRead, hDisturbs⟩
  rw [disturbs_failOnly hDisturbs] at hRead
  cases hRead

section FailedRemoval

variable {s : IngestService} {source : IngestSource} {before : World} {result : TransformResult}
  {first second : Str} {rest : List Str}

/-- The publication when nothing is to be written and the second removal fails. -/
theorem publishAsync_failedRemoval (hOutputs : prepareOutputs source result = [])
    (hExisting : before.existingOutputKeys source = first :: second :: rest) (hne : first ≠ second) :
    Triple (failOnly (.deleteObject second)) (AtPublication source before)
      (IngestService.publishAsync source result (prepareOutputs source result)
        (before.existingOutputKeys source))
      ⟨fun _ _ => False,
        fun _ st => Rewritten (before.recordProcessing source) (before.analytics.erase first) st.1 ∧
          st.2.attemptedOutputKeys = [],
        fun _ => False⟩ := by
  let start := before.recordProcessing source
  let vars : Bookkeeping := ⟨[], before.existingOutputKeys source, false⟩
  have hFirst : Triple (failOnly (.deleteObject second))
      (fun st : World × Bookkeeping => Quiet start st.1 ∧ st.2 = vars)
      (Async.lift (deleteOutputAsync first))
      ⟨fun _ st => Rewritten start (before.analytics.erase first) st.1 ∧ st.2 = vars,
        fun _ _ => False, fun _ => False⟩ := by
    have hPasses : ¬Disturbs (failOnly (.deleteObject second)) (.deleteObject first) := by
      intro h
      have he := disturbs_failOnly h
      cases he
      exact hne rfl
    refine Triple.lift vars ((deleteOutputAsync_spec first).consequence (fun _ h => h) ?_ ?_ ?_)
    · exact fun _ w h => ⟨h, rfl⟩
    · exact fun _ w h => hPasses h.1
    · exact fun w h => hPasses h.1
  have hSecond : Triple (failOnly (.deleteObject second))
      (fun st : World × Bookkeeping =>
        Rewritten start (before.analytics.erase first) st.1 ∧ st.2 = vars)
      (Async.lift (deleteOutputAsync second))
      ⟨fun _ _ => False,
        fun _ st => Rewritten start (before.analytics.erase first) st.1 ∧
          st.2.attemptedOutputKeys = [],
        fun _ => False⟩ := by
    refine Triple.lift vars (Triple.call ?_ ?_ ?_ ?_)
    · intro w _ calls hPass
      simp [failOnly] at hPass
    · intro w _ error hError
      cases hError
    · intro w h calls cause applied hFail
      simp only [failOnly, if_pos] at hFail
      cases hFail
      exact ⟨h, rfl⟩
    · intro w _ calls hKill
      simp [failOnly] at hKill
  rw [hOutputs, hExisting]
  refine Triple.bind (fun _ _ => False) ?_ fun _ => fun _ _ h => h.elim
  refine Triple.bind (fun _ (st : World × Bookkeeping) => Quiet start st.1 ∧ st.2 = vars)
    (Triple.done () fun _ h => h) fun _ => ?_
  refine Triple.andThen (fun _ (st : World × Bookkeeping) =>
    Rewritten start (before.analytics.erase first) st.1 ∧ st.2 = vars) ?_ fun _ => ?_
  · exact hFirst.consequence (fun _ h => h) (fun _ _ h => h) (fun _ _ h => h.elim) (fun _ h => h)
  · exact Triple.andThen (fun _ _ => False) hSecond fun _ => fun _ _ h => h.elim

/-- With no output to write, a failing second removal ends the run with the
first object removed and the second one left. -/
theorem processCsvAsync_failedRemoval (hStale : before.staleEvent source = .ok false)
    (hResult : s.transformed source before = .ok result)
    (hOutputs : prepareOutputs source result = [])
    (hExisting : before.existingOutputKeys source = first :: second :: rest) (hne : first ≠ second) :
    let run := s.processCsvAsync source (failOnly (.deleteObject second)) 0 before
    run.outcome ≠ .killed ∧ run.state.cleanupErrors = before.cleanupErrors ∧
      run.state.analytics = before.analytics.erase first := by
  have hTriple : Triple (failOnly (.deleteObject second)) (· = before) (s.processCsvAsync source)
      ⟨fun _ _ => False, fun _ => Rewritten (before.recordProcessing source)
        (before.analytics.erase first), fun _ => False⟩ := by
    refine Triple.bind (fun _ after => after = before.recordProcessing source)
      (Triple.modify _ fun w hEq => by rw [hEq]; rfl) fun _ => ?_
    refine Triple.catchingWith (fun vars _ w => Rewritten (before.recordProcessing source)
      (before.analytics.erase first) w ∧ vars.attemptedOutputKeys = []) ?_ ?_
    · have hNoRead := not_disturbsReads_failOnly_delete second
      refine tryProcessCsv_rule ?_ ?_ (fun _ h => absurd h hNoRead) ?_
      · intro w hSkip
        rw [hStale] at hSkip
        cases hSkip
      · rintro error w (h | ⟨_, hError⟩ | ⟨_, _, hError⟩)
        · exact absurd h hNoRead
        · rw [hStale] at hError; cases hError
        · rw [hResult] at hError; cases hError
      · intro result' _ hResult'
        rw [hResult] at hResult'
        cases hResult'
        exact (publishAsync_failedRemoval hOutputs hExisting hne).consequence (fun _ h => h)
          (fun _ _ h => h.elim) (fun _ _ h => h) (fun _ h => h.elim)
    · intro vars error
      refine Triple.assuming (fun _ h => h.2) fun hVars => ?_
      exact (failClosed_quiet error (Or.inl hVars)).consequence (fun _ h => h.1)
        (fun _ _ h => h.elim) (fun _ _ h => h) (fun _ h => h.elim)
  obtain ⟨_, _, hNever⟩ | ⟨_, hOutcome, hEnd⟩ | ⟨_, hNever⟩ := hTriple.ends 0
  · exact hNever.elim
  · exact ⟨by simp [hOutcome], hEnd.cleanupErrors, hEnd.analytics⟩
  · exact hNever.elim

end FailedRemoval

theorem existingOutputKeys_perm (w : World) (source : IngestSource) :
    (w.existingOutputKeys source).Perm ((w.outputs source).map Prod.fst) := by
  have hNodup : (w.existingOutputKeys source).Nodup := nodup_eraseDups _
  rw [List.perm_ext_iff_of_nodup hNodup (outputs_keys_nodup w source)]
  intro key
  rw [mem_existingOutputKeys, List.mem_map]
  constructor
  · rintro ⟨hOwned, hMem⟩
    obtain ⟨body, hBody⟩ := Option.isSome_iff_exists.mp (AList.lookup_isSome.mpr hMem)
    exact ⟨(key, body), mem_outputs.mpr ⟨hOwned, hBody⟩, rfl⟩
  · rintro ⟨⟨key, body⟩, hOutput, rfl⟩
    obtain ⟨hOwned, hBody⟩ := mem_outputs.mp hOutput
    exact ⟨hOwned, AList.lookup_isSome.mp (by rw [hBody]; rfl)⟩

/-- With two objects to remove and none to write, there is a failure after
which one of the prior objects is gone and another is still visible. -/
theorem RemovesSeveral.leaves_some {s : IngestService} {source : IngestSource} {w : World}
    (h : RemovesSeveral s source w) :
    ∃ key, let run := s.processCsvAsync source (failOnly (.deleteObject key)) 0 w
      run.outcome ≠ .killed ∧ run.state.cleanupErrors = w.cleanupErrors ∧
        ¬AllOrNothing s source w run.state := by
  obtain ⟨hStale, ⟨result, hResult, hNoPartition⟩, hMany⟩ := h
  have hOutputs : prepareOutputs source result = [] := prepareOutputs_eq_nil.mpr hNoPartition
  have hPerm := existingOutputKeys_perm w source
  obtain ⟨first, second, rest, hExisting⟩ :
      ∃ first second rest, w.existingOutputKeys source = first :: second :: rest := by
    have hLength := hPerm.length_eq
    rw [List.length_map] at hLength
    match hKeys : w.existingOutputKeys source with
    | [] => rw [hKeys, List.length_nil] at hLength; omega
    | [_] => rw [hKeys, List.length_singleton] at hLength; omega
    | first :: second :: rest => exact ⟨first, second, rest, rfl⟩
  have hne : first ≠ second := by
    have hNodup := hPerm.nodup_iff.mpr (outputs_keys_nodup w source)
    rw [hExisting] at hNodup
    rintro rfl
    simp at hNodup
  obtain ⟨hAlive, hCleanup, hAnalytics⟩ :=
    processCsvAsync_failedRemoval hStale hResult hOutputs hExisting hne
  refine ⟨second, hAlive, hCleanup, ?_⟩
  have hFirst : owned source first = true ∧ first ∈ w.analytics :=
    mem_existingOutputKeys.mp (by rw [hExisting]; simp)
  have hSecond : owned source second = true ∧ second ∈ w.analytics :=
    mem_existingOutputKeys.mp (by rw [hExisting]; simp)
  have hGone : (w.analytics.erase first).lookup first = none := AList.lookup_erase first _
  have hLeft : (w.analytics.erase first).lookup second = w.analytics.lookup second :=
    AList.lookup_erase_ne hne.symm
  have hVisible : (w.analytics.lookup second).isSome = true := AList.lookup_isSome.mpr hSecond.2
  unfold AllOrNothing
  rw [hAnalytics]
  rintro (hUntouched | ⟨result', hResult', hComplete⟩ | hNothing)
  · have hSame := hUntouched first hFirst.1
    rw [hGone] at hSame
    have hPresent := AList.lookup_isSome.mpr hFirst.2
    rw [← hSame] at hPresent
    cases hPresent
  · rw [hResult] at hResult'
    cases hResult'
    have hWritten := hComplete second hSecond.1
    rw [hLeft, hOutputs] at hWritten
    rw [hWritten] at hVisible
    cases hVisible
  · have hNone := hNothing second hSecond.1
    rw [hLeft] at hNone
    rw [hNone] at hVisible
    cases hVisible

/-- A run that ends, with a clean-up that works, leaves all or nothing for every
pattern of failures exactly when it does not replace several objects by none. -/
theorem IngestService.allOrNothing_iff (s : IngestService) (source : IngestSource) (w : World) :
    (∀ plan calls, let run := s.processCsvAsync source plan calls w
      run.outcome ≠ .killed → run.state.cleanupErrors = w.cleanupErrors →
        AllOrNothing s source w run.state) ↔ ¬RemovesSeveral s source w := by
  constructor
  · intro hAll hRemoves
    obtain ⟨key, hAlive, hCleanup, hNot⟩ := hRemoves.leaves_some
    exact hNot (hAll _ 0 hAlive hCleanup)
  · intro hSafe plan calls run hAlive hCleanup
    exact (s.processCsvAsync_effect source plan calls w).2.allOrNothing hAlive hCleanup hSafe

/-- A report without a Target User, over two objects of the source. -/
def severalWorld : World :=
  exampleWorld [⟨['b'], ['k'], ['1'], exampleReport ['z']⟩]
    ((AList.insert (exampleLegacyKey usageDailyPrefix) (.usageDaily [])
      (AList.insert (exampleLegacyKey modelMessagesPrefix) (.modelMessages []) ∅)))

/-- The second removal fails: one of the two objects is left. -/
theorem allOrNothing_fails :
    let run := exampleService.processCsvAsync exampleSource
      (failOnly (.deleteObject (exampleLegacyKey modelMessagesPrefix))) 0 severalWorld
    run.outcome ≠ .killed ∧ run.state.cleanupErrors = severalWorld.cleanupErrors ∧
      ¬AllOrNothing exampleService exampleSource severalWorld run.state := by
  have hResult : exampleService.transformed exampleSource severalWorld = .ok ⟨1, 0, []⟩ :=
    Fallible.eq_ok_of_toOption (by decide)
  have hExisting : severalWorld.existingOutputKeys exampleSource =
      [exampleLegacyKey usageDailyPrefix, exampleLegacyKey modelMessagesPrefix] := by
    decide
  have hOwned (factPrefix : Str) (h : factPrefix = usageDailyPrefix ∨ factPrefix = modelMessagesPrefix) :
      owned exampleSource (exampleLegacyKey factPrefix) = true := by
    rcases h with rfl | rfl <;> decide
  intro run
  obtain ⟨hAlive, hCleanup, hAnalytics⟩ := processCsvAsync_failedRemoval rfl hResult rfl hExisting
    (by decide)
  refine ⟨hAlive, hCleanup, ?_⟩
  have hGone : run.state.analytics.lookup (exampleLegacyKey usageDailyPrefix) = none := by
    rw [hAnalytics]
    decide
  have hLeft : run.state.analytics.lookup (exampleLegacyKey modelMessagesPrefix) =
      some (.modelMessages []) := by
    rw [hAnalytics]
    decide
  rintro (hUntouched | ⟨result, hResult', hComplete⟩ | hNothing)
  · have hSame := hUntouched _ (hOwned _ (Or.inl rfl))
    rw [hGone] at hSame
    exact absurd hSame (by decide)
  · rw [hResult] at hResult'
    cases hResult'
    have hWritten := hComplete _ (hOwned _ (Or.inr rfl))
    rw [hLeft] at hWritten
    cases hWritten
  · have hNone := hNothing _ (hOwned _ (Or.inr rfl))
    rw [hLeft] at hNone
    cases hNone

end KiroIngest
