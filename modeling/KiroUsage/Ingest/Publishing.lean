import KiroUsage.Ingest.Reading
import KiroUsage.Ingest.Outputs

/-! The calls that change the analytics bucket: the two loops of the
publication, the removal of all outputs after a failure, and the saving of the
sequencer. -/
namespace KiroIngest

open Text Storage Execution

variable {plan : FaultPlan} {start : World} {bucket : Bucket Str ObjectBody}

/-- Some write or removal of an output of the source does not go through. -/
def DisturbsOutputs (plan : FaultPlan) (source : IngestSource) : Prop :=
  ∃ key, owned source key = true ∧
    (Disturbs plan (.putObject key) ∨ Disturbs plan (.deleteObject key))

theorem mem_existingOutputKeys {w : World} {source : IngestSource} {key : Str} :
    key ∈ w.existingOutputKeys source ↔ owned source key = true ∧ key ∈ w.analytics := by
  simp only [World.existingOutputKeys, List.mem_eraseDups, List.mem_append, List.mem_filter,
    World.listAnalytics, w.paging.complete, AList.mem_keys, owned, isFactKey, Bool.and_eq_true,
    Bool.or_eq_true]
  tauto

/-- One request that edits the analytics bucket. A failed one may have done so. -/
theorem edit_spec {request : AwsCall}
    (edit : Bucket Str ObjectBody → Bucket Str ObjectBody) :
    Triple plan (Rewritten start bucket)
      (awsUpdate request fun w => { w with analytics := edit w.analytics })
      ⟨fun _ => Rewritten start (edit bucket),
        fun _ after => Disturbs plan request ∧
          (Rewritten start bucket after ∨ Rewritten start (edit bucket) after),
        fun after => Disturbs plan request ∧ Rewritten start bucket after⟩ := by
  have hEdit (w : World) (h : Rewritten start bucket w) :
      Rewritten start (edit bucket) { w with analytics := edit w.analytics } :=
    ⟨⟨h.raw, h.rawListing, h.paging, h.targetListParameter, h.invocations⟩,
      congrArg edit h.analytics, h.history, h.cleanupErrors⟩
  apply Triple.call
  · exact fun w h _ _ _ _ => hEdit w h
  · exact fun w h error hError => by cases hError
  · intro w h calls cause applied hPlan
    refine ⟨disturbs_of_fail hPlan, ?_⟩
    cases applied with
    | false => exact Or.inl h
    | true => exact Or.inr (hEdit w h)
  · exact fun w h calls hPlan => ⟨disturbs_of_kill hPlan, h⟩

theorem putObject_spec (key : Str) (body : ObjectBody) :
    Triple plan (Rewritten start bucket) (putObject key body)
      ⟨fun _ => Rewritten start (bucket.insert key body),
        fun _ after => Disturbs plan (.putObject key) ∧
          (Rewritten start bucket after ∨ Rewritten start (bucket.insert key body) after),
        fun after => Disturbs plan (.putObject key) ∧ Rewritten start bucket after⟩ :=
  edit_spec fun bucket => bucket.insert key body

theorem deleteOutputAsync_spec (key : Str) :
    Triple plan (Rewritten start bucket) (deleteOutputAsync key)
      ⟨fun _ => Rewritten start (bucket.erase key),
        fun _ after => Disturbs plan (.deleteObject key) ∧
          (Rewritten start bucket after ∨ Rewritten start (bucket.erase key) after),
        fun after => Disturbs plan (.deleteObject key) ∧ Rewritten start bucket after⟩ :=
  edit_spec fun bucket => bucket.erase key

/-- A publication that has not been completed, with what its bookkeeping says
about the objects that are visible. -/
structure Incomplete (plan : FaultPlan) (source : IngestSource) (outputs : List (Str × ObjectBody))
    (start : World) (vars : Bookkeeping) (w : World) : Prop extends
    Rewritten start w.analytics w where
  mixed : Mixed (owned source) outputs start.analytics w.analytics
  disturbed : DisturbsOutputs plan source
  pending : vars.publicationComplete = false
  begun : outputs ≠ [] → vars.attemptedOutputKeys ≠ []
  tracked_owned : ∀ key ∈ vars.existingOutputKeys ++ vars.attemptedOutputKeys,
    owned source key = true
  tracked : ∀ key, owned source key = true → key ∈ w.analytics →
    key ∈ vars.existingOutputKeys ++ vars.attemptedOutputKeys

/-- The publication of outputs over the objects that the source owns now. -/
def publication (source : IngestSource) (w : World) (outputs : List (Str × ObjectBody))
    (hNodup : (outputs.map Prod.fst).Nodup)
    (hOwned : ∀ key ∈ outputs.map Prod.fst, owned source key = true) :
    Publication Str ObjectBody where
  owned := owned source
  old := w.analytics
  new := outputs
  existing := w.existingOutputKeys source
  new_nodup := hNodup
  new_owned := hOwned
  existing_iff := fun _ => mem_existingOutputKeys

section Loops

variable {source : IngestSource} {outputs : List (Str × ObjectBody)}
  (hNodup : (outputs.map Prod.fst).Nodup)
  (hOwned : ∀ key ∈ outputs.map Prod.fst, owned source key = true)

include hOwned in
/-- The bookkeeping is right while the keys of `tried` have been attempted. -/
theorem incomplete_of_tried {w : World} {tried rest : List (Str × ObjectBody)}
    (hRewritten : Rewritten start w.analytics w) (hTried : tried ++ rest = outputs)
    (hBegun : outputs ≠ [] → tried ≠ [])
    (hMixed : Mixed (owned source) outputs start.analytics w.analytics)
    (hCovers : ∀ key, owned source key = true → key ∈ w.analytics →
      key ∈ start.existingOutputKeys source ∨ key ∈ tried.map Prod.fst)
    (hDisturbed : DisturbsOutputs plan source) :
    Incomplete plan source outputs start
      ⟨tried.map Prod.fst, start.existingOutputKeys source, false⟩ w := by
  refine ⟨hRewritten, hMixed, hDisturbed, rfl, ?_, ?_, ?_⟩
  · intro hOutputs
    simpa using hBegun hOutputs
  · intro key hKey
    rcases List.mem_append.mp hKey with hExisting | hAttempted
    · exact (mem_existingOutputKeys.mp hExisting).1
    · refine hOwned key ?_
      rw [← hTried, List.map_append]
      exact List.mem_append_left _ hAttempted
  · intro key hKey hMem
    exact List.mem_append.mpr (hCovers key hKey hMem)

include hNodup hOwned in
/-- One turn of the first loop. -/
theorem write_spec {written rest : List (Str × ObjectBody)} {output : Str × ObjectBody}
    (hSplit : written ++ output :: rest = outputs) :
    Triple plan
      (fun st : World × Bookkeeping => Rewritten start (start.analytics.writeAll written) st.1 ∧
        st.2 = ⟨written.map Prod.fst, start.existingOutputKeys source, false⟩)
      (do
        Async.assign fun vars : Bookkeeping =>
          { vars with attemptedOutputKeys := vars.attemptedOutputKeys ++ [output.1] }
        Async.lift (writeParquetAsync output))
      ⟨fun _ st => Rewritten start (start.analytics.writeAll (written ++ [output])) st.1 ∧
          st.2 = ⟨(written ++ [output]).map Prod.fst, start.existingOutputKeys source, false⟩,
        fun _ st => Incomplete plan source outputs start st.2 st.1,
        fun st => Incomplete plan source outputs start st.2 st.1⟩ := by
  let p := publication source start outputs hNodup hOwned
  have hSplit' : (written ++ [output]) ++ rest = outputs := by simpa using hSplit
  have hKey : owned source output.1 = true := hOwned _ (by rw [← hSplit]; simp)
  -- A failed request leaves the writes before it, with or without its own.
  have hIncomplete (w : World) (h : Disturbs plan (.putObject output.1))
      (done after : List (Str × ObjectBody)) (hDone : done ++ after = outputs)
      (hTried : ∀ key ∈ done.map Prod.fst, key ∈ (written ++ [output]).map Prod.fst)
      (hWritten : Rewritten start (start.analytics.writeAll done) w) :
      Incomplete plan source outputs start
        ⟨(written ++ [output]).map Prod.fst, start.existingOutputKeys source, false⟩ w := by
    have hBucket := hWritten.analytics
    refine incomplete_of_tried hOwned (hBucket ▸ hWritten) hSplit' (fun _ => by simp) ?_ ?_
      ⟨output.1, hKey, Or.inl h⟩
    · rw [hBucket]
      exact p.mixed_writeAll hDone
    · intro key hOwnedKey hMem
      rw [hBucket] at hMem
      exact (p.listed_or_written hOwnedKey hMem).imp_right (hTried key)
  refine Triple.bind
    (fun _ st => Rewritten start (start.analytics.writeAll written) st.1 ∧
      st.2 = ⟨(written ++ [output]).map Prod.fst, start.existingOutputKeys source, false⟩) ?_ fun _ => ?_
  · refine Triple.assign _ ?_
    rintro w vars ⟨hWritten, rfl⟩
    exact ⟨hWritten, by simp⟩
  · refine Triple.lift _ ((putObject_spec output.1 output.2).consequence (fun _ h => h) ?_ ?_ ?_)
    · intro _ w hWritten
      rw [Bucket.writeAll_snoc]
      exact ⟨hWritten, rfl⟩
    · rintro error w ⟨hDisturbs, hWritten | hWritten⟩
      · exact hIncomplete w hDisturbs written _ hSplit (fun key hKey => by simp_all) hWritten
      · rw [← Bucket.writeAll_snoc] at hWritten
        exact hIncomplete w hDisturbs _ rest hSplit' (fun _ hKey => hKey) hWritten
    · rintro w ⟨hDisturbs, hWritten⟩
      exact hIncomplete w hDisturbs written _ hSplit (fun key hKey => by simp_all) hWritten

include hNodup hOwned in
/-- One turn of the second loop. -/
theorem remove_spec {removed rest : List Str} {key : Str}
    (hSplit : removed ++ key :: rest = (publication source start outputs hNodup hOwned).stale) :
    Triple plan
      (fun st : World × Bookkeeping =>
        Rewritten start ((start.analytics.writeAll outputs).removeAll removed) st.1 ∧
        st.2 = ⟨outputs.map Prod.fst, start.existingOutputKeys source, false⟩)
      (Async.lift (deleteOutputAsync key))
      ⟨fun _ st =>
          Rewritten start ((start.analytics.writeAll outputs).removeAll (removed ++ [key])) st.1 ∧
          st.2 = ⟨outputs.map Prod.fst, start.existingOutputKeys source, false⟩,
        fun _ st => Incomplete plan source outputs start st.2 st.1,
        fun st => Incomplete plan source outputs start st.2 st.1⟩ := by
  let p := publication source start outputs hNodup hOwned
  have hKey : owned source key = true :=
    (p.mem_stale.mp (hSplit ▸ List.mem_append_right removed List.mem_cons_self)).1
  have hIncomplete (w : World) (h : Disturbs plan (.deleteObject key)) (done : List Str)
      (hDone : ∀ k ∈ done, k ∈ removed ++ key :: rest)
      (hRemoved : Rewritten start ((start.analytics.writeAll outputs).removeAll done) w) :
      Incomplete plan source outputs start
        ⟨outputs.map Prod.fst, start.existingOutputKeys source, false⟩ w := by
    have hBucket := hRemoved.analytics
    refine incomplete_of_tried hOwned (hBucket ▸ hRemoved) (List.append_nil outputs) (fun h => h)
      ?_ ?_ ⟨key, hKey, Or.inr h⟩
    · rw [hBucket]
      exact p.mixed_removeAll fun k hk => hSplit ▸ hDone k hk
    · intro k hOwnedKey hMem
      rw [hBucket, ← AList.lookup_isSome, Bucket.lookup_removeAll] at hMem
      split_ifs at hMem
      · cases hMem
      · exact p.listed_or_written hOwnedKey (AList.lookup_isSome.mp hMem)
  refine Triple.lift _ ((deleteOutputAsync_spec key).consequence (fun _ h => h) ?_ ?_ ?_)
  · intro _ w hRemoved
    rw [Bucket.removeAll_snoc]
    exact ⟨hRemoved, rfl⟩
  · rintro error w ⟨hDisturbs, hRemoved | hRemoved⟩
    · exact hIncomplete w hDisturbs removed (fun k hk => List.mem_append_left _ hk) hRemoved
    · rw [← Bucket.removeAll_snoc] at hRemoved
      exact hIncomplete w hDisturbs _ (fun k hk => by simp at hk ⊢; tauto) hRemoved
  · rintro w ⟨hDisturbs, hRemoved⟩
    exact hIncomplete w hDisturbs removed (fun k hk => List.mem_append_left _ hk) hRemoved

include hNodup hOwned in
/-- The publication ends with exactly the new outputs, or short of that. -/
theorem publishOutputs_spec :
    Triple plan
      (fun st : World × Bookkeeping => Quiet start st.1 ∧
        st.2 = ⟨[], start.existingOutputKeys source, false⟩)
      (publishOutputs outputs (start.existingOutputKeys source))
      ⟨fun _ st => ∃ complete, Reconciled (owned source) outputs start.analytics complete ∧
          Rewritten start complete st.1,
        fun _ st => Incomplete plan source outputs start st.2 st.1,
        fun st => Incomplete plan source outputs start st.2 st.1⟩ := by
  let p := publication source start outputs hNodup hOwned
  refine Triple.bind
    (fun _ (st : World × Bookkeeping) => Rewritten start (start.analytics.writeAll outputs) st.1 ∧
      st.2 = ⟨outputs.map Prod.fst, start.existingOutputKeys source, false⟩) ?_ fun _ => ?_
  · exact Triple.forEach
      (fun written _ (st : World × Bookkeeping) =>
        Rewritten start (start.analytics.writeAll written) st.1 ∧
        st.2 = ⟨written.map Prod.fst, start.existingOutputKeys source, false⟩)
      (fun written output rest hSplit => write_spec hNodup hOwned hSplit) (fun _ h => h)
  · have hStale : (start.existingOutputKeys source).filter (fun key => key ∉ outputs.map Prod.fst) =
        p.stale := List.filter_congr fun _ _ => decide_eq_decide.mpr Iff.rfl
    rw [hStale]
    refine Triple.forEach
      (fun removed _ (st : World × Bookkeeping) =>
        Rewritten start ((start.analytics.writeAll outputs).removeAll removed) st.1 ∧
          st.2 = ⟨outputs.map Prod.fst, start.existingOutputKeys source, false⟩)
      (fun removed key rest hSplit => remove_spec hNodup hOwned hSplit) ?_
    exact fun st h => ⟨_, p.reconciled_publish, h.1⟩

end Loops

/-- Some of the keys have been removed, and all of them unless a clean-up
error has been logged. -/
structure Removing (start : World) (keys : List Str) (w : World) : Prop extends Frame start w where
  history : w.history = start.history
  kept : ∀ key, w.analytics.lookup key = start.analytics.lookup key ∨
    (key ∈ keys ∧ w.analytics.lookup key = none)
  logged : ∃ lines, w.cleanupErrors = start.cleanupErrors ++ lines ∧
    (lines = [] → ∀ key, w.analytics.lookup key =
      if key ∈ keys then none else start.analytics.lookup key)

theorem Removing.refl (w : World) : Removing w [] w :=
  ⟨Frame.refl w, rfl, fun _ => Or.inl rfl, [], by simp, by simp⟩

/-- What a removal leaves, whether or not it was answered. -/
theorem Removing.kept_of_edit {keys : List Str} {key : Str} {w after : World}
    (h : Removing start keys w)
    (hEdit : Rewritten w w.analytics after ∨ Rewritten w (w.analytics.erase key) after) (other : Str) :
    after.analytics.lookup other = start.analytics.lookup other ∨
      (other ∈ keys ++ [key] ∧ after.analytics.lookup other = none) := by
  have hOld : w.analytics.lookup other = start.analytics.lookup other ∨
      (other ∈ keys ++ [key] ∧ w.analytics.lookup other = none) :=
    (h.kept other).imp_right fun hGone => ⟨List.mem_append_left _ hGone.1, hGone.2⟩
  rcases hEdit with hSame | hErased
  · rwa [hSame.analytics]
  · rw [hErased.analytics, Bucket.lookup_erase_eq_ite]
    split_ifs with hKey
    · exact Or.inr ⟨by simp [hKey], rfl⟩
    · exact hOld

theorem Removing.erase {keys : List Str} {key : Str} {w after : World}
    (h : Removing start keys w) (hErased : Rewritten w (w.analytics.erase key) after) :
    Removing start (keys ++ [key]) after := by
  obtain ⟨lines, hLines, hExact⟩ := h.logged
  refine ⟨h.toFrame.trans hErased.toFrame, hErased.history.trans h.history,
    h.kept_of_edit (Or.inr hErased), lines, hErased.cleanupErrors.trans hLines, ?_⟩
  intro hNone other
  rw [hErased.analytics, Bucket.lookup_erase_eq_ite, hExact hNone]
  by_cases hKey : other = key <;> simp [hKey]

theorem Removing.failed {keys : List Str} {key : Str} {w after : World} (source : IngestSource)
    (error : Exn) (h : Removing start keys w)
    (hEdit : Rewritten w w.analytics after ∨ Rewritten w (w.analytics.erase key) after) :
    Removing start (keys ++ [key])
      { after with log := after.log ++ [.ingestCleanupError source key error] } := by
  obtain ⟨lines, hLines, _⟩ := h.logged
  have hKept := h.kept_of_edit hEdit
  obtain ⟨hFrame, hHistory, hErrors⟩ : Frame w after ∧ after.history = w.history ∧
      after.cleanupErrors = w.cleanupErrors := by
    rcases hEdit with hEdit | hEdit <;> exact ⟨hEdit.toFrame, hEdit.history, hEdit.cleanupErrors⟩
  have hAll := h.toFrame.trans hFrame
  refine ⟨⟨hAll.raw, hAll.rawListing, hAll.paging, hAll.targetListParameter, hAll.invocations⟩,
    hHistory.trans h.history, hKept, lines ++ [.ingestCleanupError source key error], ?_, by simp⟩
  rw [← List.append_assoc, ← hLines, ← hErrors]
  simp [World.cleanupErrors, LogEvent.isCleanupError]

/-- One turn of the clean-up loop. -/
theorem tryDelete_spec (keys : List Str) (key : Str) (source : IngestSource) :
    Triple plan (Removing start keys)
      (do
        match ← Async.attempt (deleteOutputAsync key) with
        | some cleanupError => logLine (.ingestCleanupError source key cleanupError)
        | none => pure ())
      ⟨fun _ => Removing start (keys ++ [key]), fun _ _ => False, Removing start keys⟩ := by
  refine Triple.pointwise fun w h => ?_
  refine Triple.bind
    (fun failure after => (failure = none → Rewritten w (w.analytics.erase key) after) ∧
      (Rewritten w w.analytics after ∨ Rewritten w (w.analytics.erase key) after)) ?_ ?_
  · refine Triple.attempt ((deleteOutputAsync_spec key).consequence
      (fun after hEq => (by rw [hEq]; exact Quiet.refl w : Quiet w after)) ?_ ?_ ?_)
    · exact fun _ after hErased => ⟨fun _ => hErased, Or.inr hErased⟩
    · exact fun error after hEdit => ⟨nofun, hEdit.2⟩
    · rintro after ⟨_, hSame⟩
      obtain ⟨lines, hLines, hExact⟩ := h.logged
      refine ⟨h.toFrame.trans hSame.toFrame, hSame.history.trans h.history, ?_, lines,
        hSame.cleanupErrors.trans hLines, ?_⟩
      · rw [hSame.analytics]
        exact h.kept
      · rw [hSame.analytics]
        exact hExact
  · intro failure
    cases failure with
    | none => exact Triple.done () fun after hEdit => h.erase (hEdit.1 rfl)
    | some error => exact Triple.modify _ fun after hEdit => h.failed source error hEdit.2

/-- The clean-up never throws. If it logs no error, all the keys are gone. -/
theorem tryDeleteOutputsAsync_spec (keys : List Str) (source : IngestSource) :
    Triple plan (· = start) (tryDeleteOutputsAsync keys source)
      ⟨fun _ => Removing start keys, fun _ _ => False,
        fun w => ∃ done, (∀ key ∈ done, key ∈ keys) ∧ Removing start done w⟩ := by
  refine (Triple.forEach (fun done _ => Removing start done) ?_ fun _ h => h).strengthen
    fun w hEq => hEq ▸ Removing.refl start
  intro done key rest hSplit
  refine (tryDelete_spec done key source).consequence (fun _ h => h) (fun _ _ h => h)
    (fun _ _ h => h) fun w h => ⟨done, ?_, h⟩
  intro k hk
  rw [← hSplit]
  exact List.mem_append_left _ hk

/-- What `finishAsync` starts and ends with: the history says that the
publication is complete. -/
def World.recordPublished (w : World) (source : IngestSource) : World :=
  { w with history := w.history ++ [.published source] }

/-- The bucket with the sequencer of a live event saved. -/
def withSequencer (source : IngestSource) (bucket : Bucket Str ObjectBody) :
    Bucket Str ObjectBody :=
  match source.sequencer with
  | some sequencer => bucket.insert (stateKey source) (.sequencerState (some sequencer))
  | none => bucket

/-- After the publication only the saving of the sequencer can go wrong. -/
theorem finishAsync_spec (source : IngestSource) (result : TransformResult) :
    Triple plan (Rewritten start bucket) (finishAsync source result)
      ⟨fun _ => Rewritten (start.recordPublished source) (withSequencer source bucket),
        fun _ after => Disturbs plan (.putObject (stateKey source)) ∧
          (Rewritten (start.recordPublished source) bucket after ∨
            Rewritten (start.recordPublished source) (withSequencer source bucket) after),
        fun after => Disturbs plan (.putObject (stateKey source)) ∧
          Rewritten (start.recordPublished source) bucket after⟩ := by
  refine Triple.bind (fun _ => Rewritten (start.recordPublished source) bucket) ?_ fun _ => ?_
  · refine Triple.modify _ fun w h => ?_
    exact ⟨⟨h.raw, h.rawListing, h.paging, h.targetListParameter, h.invocations⟩, h.analytics,
      congrArg (· ++ _) h.history, h.cleanupErrors⟩
  refine Triple.bind
    (fun _ => Rewritten (start.recordPublished source) (withSequencer source bucket)) ?_ fun _ => ?_
  · unfold saveLiveSequencer withSequencer
    cases source.sequencer with
    | none => exact Triple.done () fun _ h => h
    | some sequencer => exact putObject_spec _ _
  · exact Triple.modify _ fun w h => h.logLine rfl

end KiroIngest
