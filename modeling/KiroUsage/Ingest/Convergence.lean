import KiroUsage.Ingest.SourceHistory

/-! Runs in which no call fails. However deliveries and backfills take turns,
the facts are those of the newest version once its event has been delivered. -/
namespace KiroIngest

open Text Storage Execution ReportTransform

/-- No call of the invocation fails. -/
def Undisturbed {o : RawObject} {parameter : Option Str} :
    SourceState o parameter → Invocation → FaultPlan → Paging → Prop :=
  fun _ _ plan _ => plan = Plan.healthy

namespace SourceState

variable {s : IngestService} {o : RawObject} {parameter : Option Str}
  (st : SourceState o parameter)

/-- The sequencer of a version is saved. -/
def Saved (v : Version) : Prop := st.savedState = some (.sequencerState (some v.sequencer))

/-- What ties the saved sequencer, the deliveries and the facts together. -/
structure Converging (s : IngestService) : Prop where
  delivered_written : ∀ v ∈ st.delivered, v ∈ st.versions
  newest_saved : ∀ v, st.versions.getLast? = some v → v ∈ st.delivered →
    (∃ result, generation s parameter v = .ok result) → st.Saved v
  saved_shown : ∀ v, st.versions.getLast? = some v → st.Saved v → st.Shows s v

/-- At most one version is saved. -/
theorem saved_unique {u v : Version} (hu : u ∈ st.versions) (hv : v ∈ st.versions) (hSavedU : st.Saved u)
    (hSavedV : st.Saved v) : u = v := by
  have hSequencer : u.sequencer = v.sequencer := by
    have h := hSavedU.symm.trans hSavedV
    simpa using h
  exact st.eq_of_rank_eq hu hv (congrArg hexValue hSequencer)

variable {st}

theorem mem_delivered_invoke {i : Invocation} {plan : FaultPlan} {paging : Paging} {w : Version}
    (h : w ∈ (st.invoke s i plan paging).delivered) : w ∈ st.delivered ∨ i = .live w := by
  cases i with
  | backfill => exact Or.inl h
  | live v =>
      rcases List.mem_append.mp h with h | h
      · exact Or.inl h
      · exact Or.inr (by rw [List.mem_singleton.mp h])

/-- A stale event of the newest version finds its own sequencer saved. -/
theorem saved_of_stale {w : Version} (hSaved : st.SavedVersion) (hNewest : st.versions.getLast? = some w)
    (hStale : st.world.staleEvent ((Invocation.live w).source o) = .ok true) : st.Saved w := by
  rcases hSaved with hNone | ⟨u, hu, hSaved⟩
  · rw [st.staleEvent_of_unsaved hNone (.live w)] at hStale
    cases hStale
  · rw [st.staleEvent_of_savedVersion hSaved w] at hStale
    have hLe : w.rank ≤ u.rank := by simpa using hStale
    have hw : w ∈ st.versions := List.mem_of_getLast? hNewest
    have hEq := st.eq_of_rank_eq hu hw (le_antisymm (st.rank_le_newest hu hNewest) hLe)
    rwa [hEq] at hSaved

theorem Converging.delivered_invoke (h : st.Converging s) {i : Invocation} {plan : FaultPlan}
    {paging : Paging} (hWritten : ∀ v, i = .live v → v ∈ st.versions) :
    ∀ v ∈ (st.invoke s i plan paging).delivered, v ∈ st.versions := by
  intro v hv
  rcases mem_delivered_invoke hv with hv | hv
  · exact h.delivered_written v hv
  · exact hWritten v hv

/-- An invocation that changes no object keeps the invariant, unless it is the
first for the event of the newest version. -/
theorem Converging.unchanged (h : st.Converging s) {i : Invocation} {plan : FaultPlan}
    {paging : Paging} (hWritten : ∀ v, i = .live v → v ∈ st.versions)
    (hAnalytics : (st.invoke s i plan paging).world.analytics = st.world.analytics)
    (hSavedVersion : ∀ w, i = .live w → st.versions.getLast? = some w →
      (∃ result, generation s parameter w = .ok result) → st.Saved w) :
    (st.invoke s i plan paging).Converging s := by
  have hSame : (st.invoke s i plan paging).savedState = st.savedState := by
    rw [savedState, hAnalytics]
    rfl
  refine ⟨h.delivered_invoke hWritten, fun w hNewest hw hAccepted => ?_,
    fun w hNewest hSaved => ?_⟩
  · refine hSame.trans ?_
    rcases mem_delivered_invoke hw with hw | hw
    · exact h.newest_saved w hNewest hw hAccepted
    · exact hSavedVersion w hw hNewest hAccepted
  · obtain ⟨result, hResult, hShown⟩ := h.saved_shown w hNewest (hSame.symm.trans hSaved)
    refine ⟨result, hResult, fun key hOwned => ?_⟩
    rw [shown, hAnalytics]
    exact hShown key hOwned

/-- One invocation without failures keeps the invariant. -/
theorem Converging.invoke (h : st.Converging s) (hSavedVersion : st.SavedVersion) (i : Invocation)
    (paging : Paging) (hWritten : ∀ v, i = .live v → v ∈ st.versions) :
    (st.invoke s i Plan.healthy paging).Converging s := by
  cases st.change i Plan.healthy paging hWritten with
  | skipped hStale hAnalytics _ =>
      refine h.unchanged hWritten hAnalytics ?_
      rintro w rfl hNewest _
      exact saved_of_stale hSavedVersion hNewest hStale
  | interrupted hCause hAnalytics _ =>
      refine h.unchanged hWritten hAnalytics ?_
      rintro w rfl hNewest ⟨result, hResult⟩
      -- Undisturbed and not stale, the run could only refuse the report.
      obtain ⟨stale, hOk⟩ := st.staleEvent_ok hSavedVersion (.live w)
      rcases hCause with ⟨request, _, hDisturbs⟩ | ⟨error, hError⟩ | ⟨_, error, hError⟩
      · exact absurd hDisturbs (not_disturbs_healthy request)
      · cases hOk.symm.trans hError
      · rw [st.transformed_eq (.live w) hWritten rfl, hResult] at hError
        cases hError
  | torn v accepted _ _ _ hDisturbed _ _ =>
      obtain ⟨key, _, hDisturbs | hDisturbs⟩ := hDisturbed
      · exact absurd hDisturbs (not_disturbs_healthy _)
      · exact absurd hDisturbs (not_disturbs_healthy _)
  | complete v accepted hReads hStale hGeneration hShown hSaved _ =>
      have hv := st.mem_of_reads i hWritten hReads
      have hShows : (st.invoke s i Plan.healthy paging).Shows s v := ⟨accepted, hGeneration, hShown⟩
      rcases hSaved with ⟨rfl, hSaved⟩ | ⟨hBackfill | hDisturbs, hSame⟩
      · refine ⟨h.delivered_invoke hWritten, fun w hNewest hw hAccepted => ?_,
          fun w hNewest hSavedW => ?_⟩
        · rcases mem_delivered_invoke hw with hw | hw
          · -- Had the newest version been handled before, this event would be stale.
            have hSavedW := h.newest_saved w hNewest hw hAccepted
            rw [st.staleEvent_of_savedVersion hSavedW v] at hStale
            have hLe := st.rank_le_newest hv hNewest
            simp [hLe] at hStale
          · cases hw
            exact hSaved
        · have hw : w ∈ st.versions := List.mem_of_getLast? hNewest
          have hEq : v = w :=
            saved_unique (st.invoke s (.live v) Plan.healthy paging) hv hw hSaved hSavedW
          rwa [← hEq]
      · cases hBackfill
        refine ⟨h.delivered_invoke hWritten, fun w hNewest hw hAccepted => ?_,
          fun w hNewest _ => ?_⟩
        · exact hSame.trans (h.newest_saved w hNewest hw hAccepted)
        · cases hReads.symm.trans hNewest
          exact hShows
      · exact absurd hDisturbs (not_disturbs_healthy _)

/-- A new version is not the saved one. -/
theorem mem_of_saved_write (hSavedVersion : st.SavedVersion) {v u : Version} (hNewer : st.Newer v)
    (hu : u ∈ (st.write v hNewer).versions) (hSaved : (st.write v hNewer).Saved u) :
    u ∈ st.versions := by
  rcases List.mem_append.mp hu with hu | hu
  · exact hu
  rw [List.mem_singleton.mp hu] at hSaved
  rcases hSavedVersion with hNone | ⟨w, hw, hSavedW⟩
  · exact absurd (hSaved.symm.trans hNone) nofun
  · have hSequencer : v.sequencer = w.sequencer := by
      have hBoth := hSaved.symm.trans hSavedW
      simpa using hBoth
    have hLt := (hNewer w hw).2
    rw [Version.rank, Version.rank, hSequencer] at hLt
    exact absurd hLt (lt_irrefl _)

/-- A new version has been neither delivered nor saved. -/
theorem Converging.write (h : st.Converging s) (v : Version) (hNewer : st.Newer v)
    (hSavedVersion : st.SavedVersion) : (st.write v hNewer).Converging s := by
  have hNew : v ∉ st.versions := fun hv => (hNewer v hv).1 rfl
  have hNewest {w : Version} (hw : (st.write v hNewer).versions.getLast? = some w) : w = v := by
    have hLast : (st.write v hNewer).versions.getLast? = some v := List.getLast?_concat
    exact Option.some.inj (hw.symm.trans hLast)
  refine ⟨fun w hw => List.mem_append_left _ (h.delivered_written w hw), ?_, ?_⟩
  · intro w hw hDelivered _
    exact absurd (h.delivered_written w hDelivered) (hNewest hw ▸ hNew)
  · intro w hw hSaved
    have hOld := mem_of_saved_write hSavedVersion hNewer (List.mem_of_getLast? hw) hSaved
    exact absurd hOld (hNewest hw ▸ hNew)

end SourceState

theorem Reachable.converging {s : IngestService} {o : RawObject} {parameter : Option Str}
    {st : SourceState o parameter} (h : Reachable s o parameter Undisturbed st) :
    st.Converging s := by
  induction h with
  | start st hVersions hDelivered _ _ =>
      refine ⟨fun v hv => ?_, fun v hv => ?_, fun v hv => ?_⟩
      · rw [hDelivered] at hv; cases hv
      · rw [hVersions] at hv; cases hv
      · rw [hVersions] at hv; cases hv
  | write h v hNewer ih => exact ih.write v hNewer h.savedVersion
  | invoke h i plan paging hWritten hAllowed ih =>
      cases hAllowed
      exact ih.invoke h.savedVersion i paging hWritten

/-- Newest-version convergence: once the event of the newest version has been
delivered, and its report is accepted, its outputs are all that is visible. -/
theorem Reachable.newest_converges {s : IngestService} {o : RawObject} {parameter : Option Str}
    {st : SourceState o parameter} (h : Reachable s o parameter Undisturbed st) {v : Version}
    {result : TransformResult} (hNewest : st.versions.getLast? = some v)
    (hDelivered : v ∈ st.delivered) (hAccepted : generation s parameter v = .ok result) :
    (st.world.outputs o.backfill).Perm (prepareOutputs o.backfill result) := by
  have hInv := h.converging
  obtain ⟨result', hResult, hShown⟩ :=
    hInv.saved_shown v hNewest (hInv.newest_saved v hNewest hDelivered ⟨result, hAccepted⟩)
  cases hAccepted.symm.trans hResult
  refine outputs_perm ?_ owned_of_mem_prepareOutputs hShown
  obtain ⟨_, _, hTransform⟩ := Fallible.bind_eq_ok.mp hAccepted
  exact prepareOutputs_nodup hTransform o.backfill

/-- The newer version is delivered first, and the older one late. -/
theorem newest_converges_example :
    (((exampleWritten.invoke exampleService (.live newerVersion) Plan.healthy Paging.single).invoke
      exampleService (.live olderVersion) Plan.healthy Paging.single).world.outputs
        exampleObject.backfill).Perm (prepareOutputs exampleObject.backfill (exampleResult ['A'])) := by
  have hWritten (v u : Version) (h : Invocation.live v = .live u)
      (hv : v = olderVersion ∨ v = newerVersion) : u ∈ exampleWritten.versions := by
    cases h
    rcases hv with rfl | rfl <;> decide
  have hNewer : Reachable exampleService exampleObject (some ['a']) Undisturbed
      (exampleWritten.invoke exampleService (.live newerVersion) Plan.healthy Paging.single) :=
    .invoke exampleWritten_reachable _ _ _ (fun u h => hWritten _ u h (Or.inr rfl)) rfl
  have hOlder := hNewer.invoke (.live olderVersion) Plan.healthy Paging.single
    (fun u h => hWritten _ u h (Or.inl rfl)) rfl
  exact hOlder.newest_converges (show _ = some newerVersion from rfl) (by simp [SourceState.invoke])
    generation_newerVersion

end KiroIngest
