import KiroUsage.Ingest.Regression
import KiroUsage.Ingest.Atomicity

/-! What a stale skip leaves in place. The saved sequencer and the facts are two
pieces of state. A run that withdraws facts does not touch the sequencer, so
withdrawing them behind a saved one hides them from every later delivery. -/
namespace KiroIngest

open Text Storage Execution ReportTransform

/-- Once a sequencer is saved, no put or delete of an output fails in a run that
publishes. -/
def Intact (s : IngestService) {o : RawObject} {parameter : Option Str} :
    SourceState o parameter → Invocation → FaultPlan → Paging → Prop :=
  fun st i plan _ => ∀ u ∈ st.versions, st.Saved u → ∀ v result, st.reads i = some v →
    generation s parameter v = .ok result → (i = .live v → u.rank < v.rank) →
      ¬DisturbsOutputs plan o.backfill

namespace SourceState

variable {s : IngestService} {o : RawObject} {parameter : Option Str}
  {st : SourceState o parameter}

/-- The delivery of a version ends without an error and without a publication. -/
def Skips (s : IngestService) (st : SourceState o parameter) (v : Version) (plan : FaultPlan)
    (paging : Paging) : Prop :=
  (st.result s (.live v) plan paging).outcome = .returned () ∧
    st.publishes s (.live v) plan paging = false

theorem publishes_eq {i : Invocation} {plan : FaultPlan} {paging : Paging}
    {events : List HistoryEvent}
    (h : (st.result s i plan paging).state.history = st.world.history ++ events) :
    st.publishes s i plan paging = events.contains (.published (i.source o)) := by
  rw [publishes, h, List.drop_left]

/-- Only a stale event is skipped. -/
theorem Skips.stale {v : Version} {plan : FaultPlan} {paging : Paging}
    (h : st.Skips s v plan paging) :
    st.world.staleEvent ((Invocation.live v).source o) = .ok true := by
  obtain ⟨hReturned, hSilent⟩ := h
  have hEffect :=
    (s.processCsvAsync_effect ((Invocation.live v).source o) plan 0 { st.world with paging }).2
  cases hEffect with
  | skipped _ hStale _ _ => exact hStale
  | interrupted hOutcome _ _ _ => exact absurd hReturned hOutcome
  | torn _ hOutcome _ _ _ _ _ _ => exact absurd hReturned hOutcome
  | unsaved _ _ hOutcome _ _ _ _ _ _ => exact absurd hReturned hOutcome
  | published _ _ _ _ _ _ _ hHistory =>
      rw [publishes_eq hHistory] at hSilent
      simp at hSilent

theorem skips_of_stale {v : Version} {paging : Paging}
    (h : st.world.staleEvent ((Invocation.live v).source o) = .ok true) :
    st.Skips s v Plan.healthy paging := by
  have hEffect := (s.processCsvAsync_effect ((Invocation.live v).source o) Plan.healthy 0
    { st.world with paging }).2
  cases hEffect with
  | skipped hOutcome _ _ hHistory =>
      refine ⟨hOutcome, ?_⟩
      rw [publishes_eq hHistory]
      simp
  | interrupted _ hCause _ _ =>
      rcases hCause with ⟨request, _, hDisturbs⟩ | ⟨error, hError⟩ | ⟨hFresh, _⟩
      · exact absurd hDisturbs (not_disturbs_healthy request)
      · cases h.symm.trans hError
      · cases h.symm.trans hFresh
  | torn _ _ hFresh _ _ _ _ _ => cases h.symm.trans hFresh
  | unsaved _ _ _ hFresh _ _ _ _ _ => cases h.symm.trans hFresh
  | published _ _ _ hFresh _ _ _ _ => cases h.symm.trans hFresh

/-- A saved sequencer stands for a complete generation of its version or a
newer one. -/
def Vouched (s : IngestService) (st : SourceState o parameter) : Prop :=
  ∀ u ∈ st.versions, st.Saved u → ∃ w ∈ st.versions, u.rank ≤ w.rank ∧ st.Shows s w

theorem Vouched.of_analytics {st' : SourceState o parameter} (h : st.Vouched s)
    (hVersions : st'.versions = st.versions)
    (hAnalytics : st'.world.analytics = st.world.analytics) : st'.Vouched s := by
  intro u hu hSaved
  rw [hVersions] at hu ⊢
  rw [Saved, savedState, hAnalytics] at hSaved
  obtain ⟨w, hw, hRank, result, hResult, hShown⟩ := h u hu hSaved
  refine ⟨w, hw, hRank, result, hResult, fun key hOwned => ?_⟩
  rw [shown, hAnalytics]
  exact hShown key hOwned

/-- A live event that is not stale is newer than the saved one. -/
theorem rank_lt_of_fresh {u v : Version} (hSaved : st.Saved u)
    (h : st.world.staleEvent ((Invocation.live v).source o) = .ok false) : u.rank < v.rank := by
  rw [st.staleEvent_of_savedVersion hSaved v] at h
  simpa using h

/-- One invocation keeps what the saved sequencer stands for. -/
theorem Vouched.invoke (h : st.Vouched s) (i : Invocation) (plan : FaultPlan) (paging : Paging)
    (hWritten : ∀ v, i = .live v → v ∈ st.versions) (hIntact : Intact s st i plan paging) :
    (st.invoke s i plan paging).Vouched s := by
  cases st.change i plan paging hWritten with
  | skipped _ hAnalytics _ => exact h.of_analytics rfl hAnalytics
  | interrupted _ hAnalytics _ => exact h.of_analytics rfl hAnalytics
  | torn v accepted hReads hStale hGeneration hDisturbed hMixed _ =>
      intro u hu hSaved
      have hSavedBefore : st.Saved u := (st.savedState_of_mixed hMixed).symm.trans hSaved
      refine absurd hDisturbed (hIntact u hu hSavedBefore v accepted hReads hGeneration ?_)
      rintro rfl
      exact rank_lt_of_fresh hSavedBefore hStale
  | complete v accepted hReads hStale hGeneration hShown hSavedAfter _ =>
      have hv := st.mem_of_reads i hWritten hReads
      intro u hu hSaved
      refine ⟨v, hv, ?_, accepted, hGeneration, hShown⟩
      rcases hSavedAfter with ⟨_, hSavedV⟩ | ⟨_, hSame⟩
      · rw [saved_unique (st.invoke s i plan paging) hu hv hSaved hSavedV]
      · have hSavedBefore : st.Saved u := hSame.symm.trans hSaved
        cases i with
        | backfill => exact st.rank_le_newest hu hReads
        | live w =>
            cases hReads
            exact (rank_lt_of_fresh hSavedBefore hStale).le

theorem Vouched.write (h : st.Vouched s) (hSavedVersion : st.SavedVersion) (v : Version)
    (hNewer : st.Newer v) : (st.write v hNewer).Vouched s := by
  intro u hu hSaved
  obtain ⟨w, hw, hOrigin⟩ := h u (mem_of_saved_write hSavedVersion hNewer hu hSaved) hSaved
  exact ⟨w, List.mem_append_left _ hw, hOrigin⟩

end SourceState

theorem Reachable.vouched {s : IngestService} {o : RawObject} {parameter : Option Str}
    {st : SourceState o parameter} (h : Reachable s o parameter (Intact s) st) : st.Vouched s := by
  induction h with
  | start st hVersions _ _ _ =>
      intro u hu
      rw [hVersions] at hu
      cases hu
  | write h v hNewer ih => exact ih.write h.savedVersion v hNewer
  | invoke h i plan paging hWritten hIntact ih => exact ih.invoke i plan paging hWritten hIntact

/-- Where no output request fails behind a saved sequencer, a skip leaves a
complete generation of the skipped version or a newer one in place, and a saved
sequencer always stands for one. -/
theorem Reachable.skips_shown {s : IngestService} {o : RawObject} {parameter : Option Str}
    {st : SourceState o parameter} (h : Reachable s o parameter (Intact s) st) :
    (∀ v plan paging, st.Skips s v plan paging →
      ∃ w ∈ st.versions, v.rank ≤ w.rank ∧ st.Shows s w) ∧
    ∀ u ∈ st.versions, st.Saved u → ∃ w ∈ st.versions, u.rank ≤ w.rank ∧ st.Shows s w := by
  refine ⟨fun v plan paging hSkips => ?_, h.vouched⟩
  have hStale := hSkips.stale
  rcases h.savedVersion with hNone | ⟨u, hu, hSaved⟩
  · rw [st.staleEvent_of_unsaved hNone (.live v)] at hStale
    cases hStale
  · rw [st.staleEvent_of_savedVersion hSaved v] at hStale
    have hRank : v.rank ≤ u.rank := by simpa using hStale
    obtain ⟨w, hw, hNewer, hShows⟩ := h.vouched u hu hSaved
    exact ⟨w, hw, hRank.trans hNewer, hShows⟩

section Example

/-- The older version's event has been delivered before the newer one's. -/
def exampleDelivered : SourceState exampleObject (some ['a']) :=
  exampleWritten.invoke exampleService (.live olderVersion) Plan.healthy Paging.single

theorem exampleDelivered_reachable
    {allowed : SourceState exampleObject (some ['a']) → Invocation → FaultPlan → Paging → Prop}
    (h : allowed exampleWritten (.live olderVersion) Plan.healthy Paging.single) :
    Reachable exampleService exampleObject (some ['a']) allowed exampleDelivered := by
  refine exampleWritten_reachable.invoke _ _ _ (fun v hv => ?_) h
  cases hv
  decide

theorem exampleDelivered_saved : exampleDelivered.Saved olderVersion := by
  unfold SourceState.Saved
  decide +kernel

/-- Redelivered, the older event is skipped over its own facts. -/
theorem skips_shown_example :
    ∃ w ∈ exampleDelivered.versions, olderVersion.rank ≤ w.rank ∧
      exampleDelivered.Shows exampleService w := by
  have hUnsaved : exampleWritten.savedState = none := rfl
  have hReachable := exampleDelivered_reachable
    (show Intact exampleService exampleWritten (.live olderVersion) Plan.healthy Paging.single from
      fun u _ hSaved => by cases hUnsaved.symm.trans hSaved)
  refine hReachable.skips_shown.1 olderVersion Plan.healthy Paging.single ?_
  refine SourceState.skips_of_stale ?_
  rw [exampleDelivered.staleEvent_of_savedVersion exampleDelivered_saved olderVersion]
  simp

/-- A backfill of the newer version whose first put fails, and whose clean-up
works. -/
def exampleWithdrawn : SourceState exampleObject (some ['a']) :=
  exampleDelivered.invoke exampleService .backfill (failOnly (.putObject exampleOutputKey))
    Paging.single

/-- What the backfill leaves: the older sequencer, and no output. -/
theorem exampleWithdrawn_left :
    exampleWithdrawn.Saved olderVersion ∧ exampleWithdrawn.shown exampleOutputKey = none ∧
      exampleWithdrawn.world.cleanupErrors.length = 0 ∧
      (exampleWithdrawn.world.outputs exampleObject.backfill).length = 0 := by
  unfold SourceState.Saved
  decide +kernel

/-- The older sequencer is still saved, so its event is skipped although no fact
is left. -/
theorem skips_missing_facts :
    Reachable exampleService exampleObject (some ['a']) AnyInvocation exampleWithdrawn ∧
      exampleWithdrawn.world.cleanupErrors = [] ∧ exampleWithdrawn.Saved olderVersion ∧
      exampleWithdrawn.Skips exampleService olderVersion Plan.healthy Paging.single ∧
      exampleWithdrawn.world.outputs exampleObject.backfill = [] ∧
      ∀ w ∈ exampleWithdrawn.versions, ¬exampleWithdrawn.Shows exampleService w := by
  obtain ⟨hSaved, hGone, hClean, hNone⟩ := exampleWithdrawn_left
  have hOwned : owned exampleObject.backfill exampleOutputKey = true := by decide +kernel
  have hWritten (email : Str) (hEmail : email = ['a'] ∨ email = ['A']) :
      (written (prepareOutputs exampleObject.backfill (exampleResult email))
        exampleOutputKey).isSome = true := by
    rcases hEmail with rfl | rfl <;> decide +kernel
  refine ⟨?_, List.length_eq_zero_iff.mp hClean, hSaved, ?_, List.length_eq_zero_iff.mp hNone, ?_⟩
  · refine (exampleDelivered_reachable trivial).invoke _ _ _ (fun v hv => ?_) trivial
    cases hv
  · refine SourceState.skips_of_stale ?_
    rw [exampleWithdrawn.staleEvent_of_savedVersion hSaved olderVersion]
    simp
  · rintro w hw ⟨result, hResult, hShown⟩
    have hPresent := hShown exampleOutputKey hOwned
    rw [hGone] at hPresent
    have hVersions : w ∈ [olderVersion, newerVersion] := hw
    rcases List.mem_pair.mp hVersions with rfl | rfl
    · cases generation_olderVersion.symm.trans hResult
      simpa [← hPresent] using hWritten ['a'] (Or.inl rfl)
    · cases generation_newerVersion.symm.trans hResult
      simpa [← hPresent] using hWritten ['A'] (Or.inr rfl)

end Example

end KiroIngest
