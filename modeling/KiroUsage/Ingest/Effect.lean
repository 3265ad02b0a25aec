import KiroUsage.Ingest.Publishing

/-! What one run of `ProcessCsvAsync` can do, said once for every plan. All
results about runs of the service are derived from this case distinction. -/
namespace KiroIngest

open Text Storage Execution ReportTransform

/-- Why a run ends before its first write. -/
def Undecided (s : IngestService) (plan : FaultPlan) (source : IngestSource) (before : World) : Prop :=
  DisturbsReads plan ∨ (∃ error, before.staleEvent source = .error error) ∨
    (before.staleEvent source = .ok false ∧ ∃ error, s.transformed source before = .error error)

/-- The five ways in which a run of `ProcessCsvAsync` ends. -/
inductive Effect (s : IngestService) (plan : FaultPlan) (source : IngestSource) (before : World)
    (outcome : Outcome Exn Unit) (after : World) : Prop
  /-- The event is stale, and nothing else is read. -/
  | skipped (hOutcome : outcome = .returned ()) (hStale : before.staleEvent source = .ok true)
      (hAnalytics : after.analytics = before.analytics)
      (hHistory : after.history = before.history ++ [.processing source])
  /-- The run ends before its first write. -/
  | interrupted (hOutcome : outcome ≠ .returned ())
      (hCause : Undecided s plan source before)
      (hAnalytics : after.analytics = before.analytics)
      (hHistory : after.history = before.history ++ [.processing source])
      (hKilled : outcome = .killed → DisturbsReads plan)
  /-- The run ends between its first write and the last removal. A run that
  throws cleans up, but only after a write. -/
  | torn (result : TransformResult) (hOutcome : outcome ≠ .returned ())
      (hStale : before.staleEvent source = .ok false)
      (hResult : s.transformed source before = .ok result)
      (hDisturbed : DisturbsOutputs plan source)
      (hMixed : Mixed (owned source) (prepareOutputs source result) before.analytics after.analytics)
      (hCleanup : outcome ≠ .killed → prepareOutputs source result ≠ [] →
        after.cleanupErrors = before.cleanupErrors →
        Withdrawn (owned source) before.analytics after.analytics)
      (hHistory : after.history = before.history ++ [.processing source])
  /-- The outputs are complete, but the saving of the sequencer went wrong. -/
  | unsaved (result : TransformResult) (complete : Bucket Str ObjectBody)
      (hOutcome : outcome ≠ .returned ())
      (hStale : before.staleEvent source = .ok false)
      (hResult : s.transformed source before = .ok result)
      (hDisturbed : Disturbs plan (.putObject (stateKey source)))
      (hReconciled : Reconciled (owned source) (prepareOutputs source result) before.analytics complete)
      (hAnalytics : after.analytics = complete ∨ after.analytics = withSequencer source complete)
      (hHistory : after.history = before.history ++ [.processing source, .published source])
  /-- The outputs are complete and the sequencer of a live event is saved. -/
  | published (result : TransformResult) (complete : Bucket Str ObjectBody)
      (hOutcome : outcome = .returned ())
      (hStale : before.staleEvent source = .ok false)
      (hResult : s.transformed source before = .ok result)
      (hReconciled : Reconciled (owned source) (prepareOutputs source result) before.analytics complete)
      (hAnalytics : after.analytics = withSequencer source complete)
      (hHistory : after.history = before.history ++ [.processing source, .published source])

/-- The state in which the `try` block starts. -/
def World.recordProcessing (w : World) (source : IngestSource) : World :=
  { w with history := w.history ++ [.processing source] }

theorem frame_recordProcessing (w : World) (source : IngestSource) :
    Frame w (w.recordProcessing source) := ⟨rfl, rfl, rfl, rfl, rfl⟩

theorem frame_recordPublished (w : World) (source : IngestSource) :
    Frame w (w.recordPublished source) := ⟨rfl, rfl, rfl, rfl, rfl⟩

theorem transformed_eq_ok {s : IngestService} {source : IngestSource} {w : World}
    {result : TransformResult} (h : s.transformed source w = .ok result) :
    ∃ csv targetList, w.readRaw source.bucket source.key source.versionId = .ok csv ∧
      parseTargetList s.platform w.targetListParameter = .ok targetList ∧
      transform s.platform csv targetList = .ok result := by
  simp only [IngestService.transformed, Fallible.bind_eq_ok] at h
  obtain ⟨csv, hCsv, targetList, hTarget, hTransform⟩ := h
  exact ⟨csv, targetList, hCsv, hTarget, hTransform⟩

theorem transformed_nodup {s : IngestService} {source : IngestSource} {w : World}
    {result : TransformResult} (h : s.transformed source w = .ok result) :
    ((prepareOutputs source result).map Prod.fst).Nodup := by
  obtain ⟨_, _, _, _, hTransform⟩ := transformed_eq_ok h
  exact prepareOutputs_nodup hTransform source

section Handler

variable {plan : FaultPlan} {start : World} {source : IngestSource}
  {outputs : List (Str × ObjectBody)}

/-- Without clean-up the handler only logs. -/
theorem failClosed_quiet {bucket : Bucket Str ObjectBody} {vars : Bookkeeping} (error : Exn)
    (h : vars.attemptedOutputKeys = [] ∨ vars.publicationComplete = true) :
    Triple plan (Rewritten start bucket) (failClosed source vars error)
      ⟨fun _ _ => False, fun _ => Rewritten start bucket, fun _ => False⟩ := by
  have hSkip : removeUnlessComplete source vars = pure () := by
    unfold removeUnlessComplete
    rw [if_neg]
    rintro ⟨hAttempted, hPending⟩
    rcases h with h | h
    · simp [h] at hAttempted
    · simp [h] at hPending
  unfold failClosed
  rw [hSkip]
  refine Triple.bind (fun _ => Rewritten start bucket) (Triple.done () fun _ h => h) fun _ => ?_
  refine Triple.bind (fun _ => Rewritten start bucket) (Triple.modify _ fun _ h => h.logLine rfl)
    fun _ => ?_
  exact Triple.throwing error fun _ h => h

/-- What is left of a publication that was not completed. -/
structure Left (plan : FaultPlan) (source : IngestSource) (outputs : List (Str × ObjectBody))
    (start w : World) : Prop extends Frame start w where
  history : w.history = start.history
  mixed : Mixed (owned source) outputs start.analytics w.analytics
  disturbed : DisturbsOutputs plan source

theorem Incomplete.left {vars : Bookkeeping} {w : World}
    (h : Incomplete plan source outputs start vars w) : Left plan source outputs start w :=
  ⟨h.toFrame, h.history, h.mixed, h.disturbed⟩

theorem Left.logLine {w : World} (h : Left plan source outputs start w) (event : LogEvent) :
    Left plan source outputs start { w with log := w.log ++ [event] } :=
  ⟨⟨h.raw, h.rawListing, h.paging, h.targetListParameter, h.invocations⟩, h.history, h.mixed,
    h.disturbed⟩

theorem Incomplete.removing {vars : Bookkeeping} {w after : World} {keys : List Str}
    (h : Incomplete plan source outputs start vars w) (hRemoving : Removing w keys after)
    (hKeys : ∀ key ∈ keys, key ∈ vars.existingOutputKeys ++ vars.attemptedOutputKeys) :
    Left plan source outputs start after := by
  refine ⟨h.toFrame.trans hRemoving.toFrame, hRemoving.history.trans h.history, ?_, h.disturbed⟩
  refine h.mixed.remove fun key => ?_
  exact (hRemoving.kept key).imp_right fun hGone => ⟨h.tracked_owned key (hKeys key hGone.1), hGone.2⟩

/-- What is left when the handler has cleaned up: no output, unless one of its
deletes has failed. -/
structure CleanedUp (plan : FaultPlan) (source : IngestSource) (outputs : List (Str × ObjectBody))
    (start w : World) : Prop extends Left plan source outputs start w where
  withdrawn : outputs ≠ [] → w.cleanupErrors = start.cleanupErrors →
    Withdrawn (owned source) start.analytics w.analytics

theorem CleanedUp.logLine {w : World} (h : CleanedUp plan source outputs start w) {event : LogEvent}
    (hEvent : event.isCleanupError = false) :
    CleanedUp plan source outputs start { w with log := w.log ++ [event] } :=
  ⟨h.toLeft.logLine event, fun hOutputs hErrors =>
    h.withdrawn hOutputs ((cleanupErrors_logLine w hEvent).symm.trans hErrors)⟩

theorem removeUnlessComplete_incomplete {vars : Bookkeeping} {w : World}
    (h : Incomplete plan source outputs start vars w) :
    Triple plan (· = w) (removeUnlessComplete source vars)
      ⟨fun _ => CleanedUp plan source outputs start, fun _ _ => False,
        Left plan source outputs start⟩ := by
  unfold removeUnlessComplete
  split_ifs with hClean
  · refine (tryDeleteOutputsAsync_spec _ source).consequence (fun _ h => h) ?_ nofun ?_
    · intro _ after hRemoving
      refine ⟨h.removing hRemoving fun key hKey => List.mem_eraseDups.mp hKey, ?_⟩
      intro _ hErrors
      obtain ⟨lines, hLines, hExact⟩ := hRemoving.logged
      have hNone : lines = [] := by
        rw [h.cleanupErrors, hErrors] at hLines
        simpa using hLines
      refine h.mixed.withdrawn (fun key hKey => h.tracked_owned key (List.mem_eraseDups.mp hKey)) ?_
        fun key => (hExact hNone key).trans (by congr)
      exact fun key hOwned hMem => List.mem_eraseDups.mpr (h.tracked key hOwned hMem)
    · rintro after ⟨done, hDone, hRemoving⟩
      exact h.removing hRemoving fun key hKey => List.mem_eraseDups.mp (hDone key hKey)
  · refine Triple.done () ?_
    rintro after rfl
    refine ⟨h.left, fun hOutputs => ?_⟩
    exact absurd ⟨List.length_pos_iff.mpr (h.begun hOutputs), h.pending⟩ hClean

/-- The clean-up withdraws the outputs unless one of its deletes fails. -/
theorem failClosed_incomplete {vars : Bookkeeping} (error : Exn) :
    Triple plan (Incomplete plan source outputs start vars) (failClosed source vars error)
      ⟨fun _ _ => False, fun _ => CleanedUp plan source outputs start,
        Left plan source outputs start⟩ := by
  refine Triple.pointwise fun w h => ?_
  refine Triple.bind (fun _ => CleanedUp plan source outputs start) ?_ fun _ => ?_
  · exact (removeUnlessComplete_incomplete h).consequence (fun _ h => h) (fun _ _ h => h) nofun
      fun _ h => h
  refine Triple.bind (fun _ => CleanedUp plan source outputs start)
    (Triple.modify _ fun _ hLeft => hLeft.logLine rfl) fun _ => ?_
  exact Triple.throwing error fun _ hLeft => hLeft

end Handler

section Body

variable {plan : FaultPlan} {s : IngestService} {source : IngestSource} {before : World}
  {post : Post (World × Bookkeeping) Exn Unit}

/-- The state of the `try` block before the first write. -/
def AtPublication (source : IngestSource) (before : World) (st : World × Bookkeeping) : Prop :=
  Quiet (before.recordProcessing source) st.1 ∧
    st.2 = ⟨[], before.existingOutputKeys source, false⟩

/-- The `try` block for an event that is not stale, up to the first write. -/
theorem reconcileAsync_rule (hStale : before.staleEvent source = .ok false)
    (hThrew : ∀ error w, Undecided s plan source before → Quiet (before.recordProcessing source) w →
      post.threw error (w, {}))
    (hKilled : ∀ st, DisturbsReads plan → Quiet (before.recordProcessing source) st.1 →
      post.killed st)
    (hPublish : ∀ result, s.transformed source before = .ok result →
      Triple plan (AtPublication source before)
        (IngestService.publishAsync source result (prepareOutputs source result)
          (before.existingOutputKeys source)) post) :
    Triple plan
      (fun st : World × Bookkeeping => Quiet (before.recordProcessing source) st.1 ∧ st.2 = {})
      (s.reconcileAsync source) post := by
  have hPrepare : Reads plan (before.recordProcessing source) (s.prepareAsync source)
      ((s.transformed source before).map fun result => (result, prepareOutputs source result)) :=
    prepareAsync_reads s source
  refine Triple.bind _ ((hPrepare.lift {}).consequence (fun _ h => h) (fun _ _ h => h) ?_ ?_) ?_
  · rintro error ⟨w, vars⟩ ⟨hCause, hQuiet, rfl⟩
    refine hThrew error w ?_ hQuiet
    refine hCause.symm.imp_right fun hError => Or.inr ⟨hStale, error, ?_⟩
    cases hResult : s.transformed source before with
    | error cause => rw [hResult] at hError; cases hError; rfl
    | ok result => rw [hResult] at hError; cases hError
  · exact fun st h => hKilled st h.1 h.2
  rintro ⟨result, outputs⟩
  refine Triple.assuming (fun _ hState => hState.1) fun hOk => ?_
  have hResult : s.transformed source before = .ok result ∧
      outputs = prepareOutputs source result := by
    cases hResult : s.transformed source before with
    | error cause => rw [hResult] at hOk; cases hOk
    | ok result' => rw [hResult] at hOk; cases hOk; exact ⟨rfl, rfl⟩
  obtain ⟨hResult, rfl⟩ := hResult
  have hFind : Reads plan (before.recordProcessing source) (findExistingOutputKeysAsync source)
      (.ok (before.existingOutputKeys source)) := findExistingOutputKeysAsync_reads source
  refine Triple.bind _ ((hFind.lift {}).consequence (fun _ h => h.2) (fun _ _ h => h) ?_ ?_) ?_
  · rintro error ⟨w, vars⟩ ⟨hCause, hQuiet, rfl⟩
    exact hThrew error w (Or.inl (hCause.resolve_left nofun)) hQuiet
  · exact fun st h => hKilled st h.1 h.2
  intro existingOutputKeys
  refine Triple.assuming (fun _ hState => hState.1) fun hExisting => ?_
  cases hExisting
  refine Triple.bind (fun _ => AtPublication source before) ?_ fun _ => hPublish result hResult
  refine Triple.assign _ ?_
  rintro w vars ⟨_, hQuiet, rfl⟩
  exact ⟨hQuiet, rfl⟩

/-- The whole `try` block, up to the first write. -/
theorem tryProcessCsv_rule
    (hSkipped : ∀ w, before.staleEvent source = .ok true →
      Quiet (before.recordProcessing source) w → post.returned () (w, {}))
    (hThrew : ∀ error w, Undecided s plan source before → Quiet (before.recordProcessing source) w →
      post.threw error (w, {}))
    (hKilled : ∀ st, DisturbsReads plan → Quiet (before.recordProcessing source) st.1 →
      post.killed st)
    (hPublish : ∀ result, before.staleEvent source = .ok false →
      s.transformed source before = .ok result →
      Triple plan (AtPublication source before)
        (IngestService.publishAsync source result (prepareOutputs source result)
          (before.existingOutputKeys source)) post) :
    Triple plan (fun st : World × Bookkeeping => st.1 = before.recordProcessing source ∧ st.2 = {})
      (s.tryProcessCsv source) post := by
  have hReads : Reads plan (before.recordProcessing source) (isStaleEventAsync source)
      (before.staleEvent source) := isStaleEventAsync_reads source
  refine Triple.bind _ ((hReads.lift {}).consequence ?_ (fun _ _ h => h) ?_ ?_) ?_
  · rintro ⟨w, vars⟩ ⟨rfl, rfl⟩
    exact ⟨Quiet.refl _, rfl⟩
  · rintro error ⟨w, vars⟩ ⟨hCause, hQuiet, rfl⟩
    exact hThrew error w (hCause.symm.imp_right fun hError => Or.inl ⟨error, hError⟩) hQuiet
  · exact fun st h => hKilled st h.1 h.2
  intro stale
  refine Triple.assuming (fun _ hState => hState.1) fun hStale => ?_
  cases stale with
  | true =>
      rw [if_pos rfl]
      refine (Triple.lift {} (Triple.modify _ ?_)).strengthen fun _ hState => hState.2
      exact fun w hQuiet => hSkipped _ hStale (hQuiet.logLine rfl)
  | false =>
      exact (reconcileAsync_rule hStale hThrew hKilled fun result hResult =>
        hPublish result hStale hResult).strengthen fun _ hState => hState.2

/-- What the `catch` clause finds. -/
def Escaped (s : IngestService) (plan : FaultPlan) (source : IngestSource) (before : World)
    (vars : Bookkeeping) (w : World) : Prop :=
  (vars.attemptedOutputKeys = [] ∧ Quiet (before.recordProcessing source) w ∧
    Undecided s plan source before) ∨
  ∃ result, before.staleEvent source = .ok false ∧ s.transformed source before = .ok result ∧
    (Incomplete plan source (prepareOutputs source result) (before.recordProcessing source) vars w ∨
      ∃ complete, vars.publicationComplete = true ∧ Disturbs plan (.putObject (stateKey source)) ∧
        Reconciled (owned source) (prepareOutputs source result) before.analytics complete ∧
        (Rewritten ((before.recordProcessing source).recordPublished source) complete w ∨
          Rewritten ((before.recordProcessing source).recordPublished source)
            (withSequencer source complete) w))

/-- The part of the `try` block that follows an event found not stale. -/
theorem publish_spec {result : TransformResult} (hStale : before.staleEvent source = .ok false)
    (hResult : s.transformed source before = .ok result) :
    Triple plan (AtPublication source before)
      (IngestService.publishAsync source result (prepareOutputs source result)
        (before.existingOutputKeys source))
      ⟨fun _ st => Frame before st.1 ∧ Effect s plan source before (.returned ()) st.1,
        fun _ st => Escaped s plan source before st.2 st.1,
        fun st => Frame before st.1 ∧ Effect s plan source before .killed st.1⟩ := by
  let outputs := prepareOutputs source result
  let start := before.recordProcessing source
  have hFrame {bucket : Bucket Str ObjectBody} {w : World}
      (h : Rewritten (start.recordPublished source) bucket w) : Frame before w :=
    ((frame_recordProcessing before source).trans (frame_recordPublished start source)).trans h.toFrame
  have hHistory {bucket : Bucket Str ObjectBody} {w : World}
      (h : Rewritten (start.recordPublished source) bucket w) :
      w.history = before.history ++ [.processing source, .published source] := by
    rw [h.history]
    simp [start, World.recordPublished, World.recordProcessing]
  refine Triple.bind
    (fun _ st => ∃ complete, Reconciled (owned source) outputs before.analytics complete ∧
      Rewritten start complete st.1) ?_ fun _ => ?_
  · have hPublish : Triple plan (fun st => Quiet start st.1 ∧ st.2 = _)
        (publishOutputs outputs (start.existingOutputKeys source)) _ :=
      publishOutputs_spec (transformed_nodup hResult) owned_of_mem_prepareOutputs
    refine hPublish.consequence (fun _ h => h) (fun _ _ h => h) ?_ ?_
    · exact fun _ st h => Or.inr ⟨result, hStale, hResult, Or.inl h⟩
    · intro st h
      refine ⟨(frame_recordProcessing before source).trans h.toFrame, ?_⟩
      exact .torn result nofun hStale hResult h.disturbed h.mixed (fun hKilled => absurd rfl hKilled)
        h.history
  refine Triple.bind
    (fun _ st => ∃ complete vars, Reconciled (owned source) outputs before.analytics complete ∧
      vars.publicationComplete = true ∧ Rewritten start complete st.1 ∧ st.2 = vars) ?_ fun _ => ?_
  · refine Triple.assign _ ?_
    rintro w vars ⟨complete, hReconciled, hRewritten⟩
    exact ⟨complete, _, hReconciled, rfl, hRewritten, rfl⟩
  refine Triple.pointwise fun st hState => ?_
  obtain ⟨complete, vars, hReconciled, hComplete, hRewritten⟩ := hState
  refine (Triple.lift vars ((finishAsync_spec source result).consequence (fun _ h => h)
    ?_ ?_ ?_)).strengthen fun st' hEq => hEq ▸ hRewritten
  · intro _ w h
    exact ⟨hFrame h, .published result complete rfl hStale hResult hReconciled h.analytics (hHistory h)⟩
  · rintro error w ⟨hDisturbs, h⟩
    exact Or.inr ⟨result, hStale, hResult,
      Or.inr ⟨complete, hComplete, hDisturbs, hReconciled, h⟩⟩
  · rintro w ⟨hDisturbs, h⟩
    exact ⟨hFrame h, .unsaved result complete nofun hStale hResult hDisturbs hReconciled
      (Or.inl h.analytics) (hHistory h)⟩

/-- The whole `try` block. -/
theorem tryProcessCsv_spec :
    Triple plan (fun st : World × Bookkeeping => st.1 = before.recordProcessing source ∧ st.2 = {})
      (s.tryProcessCsv source)
      ⟨fun _ st => Frame before st.1 ∧ Effect s plan source before (.returned ()) st.1,
        fun _ st => Escaped s plan source before st.2 st.1,
        fun st => Frame before st.1 ∧ Effect s plan source before .killed st.1⟩ := by
  have hFrame {w : World} (h : Quiet (before.recordProcessing source) w) : Frame before w :=
    (frame_recordProcessing before source).trans h.toFrame
  refine tryProcessCsv_rule ?_ ?_ ?_ fun result hStale hResult => publish_spec hStale hResult
  · exact fun w hStale h => ⟨hFrame h, .skipped rfl hStale h.analytics h.history⟩
  · exact fun error w hCause h => Or.inl ⟨rfl, h, hCause⟩
  · exact fun st hDisturbed h =>
      ⟨hFrame h, .interrupted nofun (Or.inl hDisturbed) h.analytics h.history fun _ => hDisturbed⟩

end Body

section Run

variable {plan : FaultPlan} {s : IngestService} {source : IngestSource} {before : World}

/-- The `catch` clause, from wherever the `try` block was left. -/
theorem failClosed_spec (vars : Bookkeeping) (error : Exn) :
    Triple plan (Escaped s plan source before vars) (failClosed source vars error)
      ⟨fun _ _ => False,
        fun error after => Frame before after ∧ Effect s plan source before (.threw error) after,
        fun after => Frame before after ∧ Effect s plan source before .killed after⟩ := by
  have hFrame := frame_recordProcessing before source
  refine Triple.pointwise fun w hEscaped => ?_
  obtain ⟨hAttempted, hQuiet, hCause⟩ | ⟨result, hStale, hResult, hIncomplete | hComplete⟩ := hEscaped
  · refine (failClosed_quiet error (Or.inl hAttempted)).consequence (fun _ hEq => hEq ▸ hQuiet)
      (fun _ _ h => h) ?_ nofun
    exact fun error after h =>
      ⟨hFrame.trans h.toFrame, .interrupted nofun hCause h.analytics h.history nofun⟩
  · refine (failClosed_incomplete error).consequence (fun _ hEq => hEq ▸ hIncomplete)
      (fun _ _ h => h) ?_ ?_
    · intro error after h
      exact ⟨hFrame.trans h.toFrame, .torn result nofun hStale hResult h.disturbed h.mixed
        (fun _ => h.withdrawn) h.history⟩
    · intro after hLeft
      exact ⟨hFrame.trans hLeft.toFrame, .torn result nofun hStale hResult hLeft.disturbed hLeft.mixed
        (fun hKilled => absurd rfl hKilled) hLeft.history⟩
  · obtain ⟨complete, hComplete, hDisturbs, hReconciled, hWritten⟩ := hComplete
    have hDone {bucket : Bucket Str ObjectBody} (h : Rewritten
        ((before.recordProcessing source).recordPublished source) bucket w)
        (hBucket : bucket = complete ∨ bucket = withSequencer source complete) :
        Triple plan (· = w) (failClosed source vars error)
          ⟨fun _ _ => False,
            fun error after => Frame before after ∧ Effect s plan source before (.threw error) after,
            fun after => Frame before after ∧ Effect s plan source before .killed after⟩ := by
      refine (failClosed_quiet error (Or.inr hComplete)).consequence (fun _ hEq => hEq ▸ h)
        (fun _ _ h => h) ?_ nofun
      intro error after h
      refine ⟨(hFrame.trans (frame_recordPublished _ source)).trans h.toFrame, ?_⟩
      refine .unsaved result complete nofun hStale hResult hDisturbs hReconciled ?_ ?_
      · rwa [h.analytics]
      · rw [h.history]
        simp [World.recordPublished, World.recordProcessing]
    rcases hWritten with hWritten | hWritten
    · exact hDone hWritten (Or.inl rfl)
    · exact hDone hWritten (Or.inr rfl)

/-- What one run of `ProcessCsvAsync` does, whatever the plan. -/
theorem IngestService.processCsvAsync_effect (s : IngestService) (source : IngestSource)
    (plan : FaultPlan) (calls : Nat) (before : World) :
    Frame before (s.processCsvAsync source plan calls before).state ∧
      Effect s plan source before (s.processCsvAsync source plan calls before).outcome
        (s.processCsvAsync source plan calls before).state := by
  have hTriple : Triple plan (· = before) (s.processCsvAsync source)
      ⟨fun _ after => Frame before after ∧ Effect s plan source before (.returned ()) after,
        fun error after => Frame before after ∧ Effect s plan source before (.threw error) after,
        fun after => Frame before after ∧ Effect s plan source before .killed after⟩ := by
    refine Triple.bind (fun _ after => after = before.recordProcessing source)
      (Triple.modify _ fun w hEq => by rw [hEq]; rfl) fun _ => ?_
    refine Triple.catchingWith (fun vars _ => Escaped s plan source before vars) tryProcessCsv_spec
      fun vars error => ?_
    exact (failClosed_spec vars error).consequence (fun _ h => h) nofun (fun _ _ h => h) fun _ h => h
  obtain ⟨_, hOutcome, hEnd⟩ | ⟨_, hOutcome, hEnd⟩ | ⟨hOutcome, hEnd⟩ := hTriple.ends calls
  · exact hOutcome ▸ hEnd
  · exact hOutcome ▸ hEnd
  · exact hOutcome ▸ hEnd

end Run

end KiroIngest
