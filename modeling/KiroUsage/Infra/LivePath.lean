import KiroUsage.Infra.IngestPipeline
import KiroUsage.Ingest.Reached

/-! The live path of the deployed pipeline. The role lets S3 hide that a state
object is missing, so the first event of a source is rejected; no run saves a
sequencer, and so every event stays a first event. -/
namespace KiroInfra

open Text Storage Execution Access KiroIngest

/-- No state object exists, and no live event has been published since the start. -/
structure Unlived (start w : World) : Prop where
  absent : ∀ source, w.analytics.lookup (stateKey source) = none
  unpublished : ∀ source, source.sequencer ≠ none → .published source ∈ w.history →
    .published source ∈ start.history

section Step

variable {start w after : World} {s : IngestService} {plan : FaultPlan}

theorem Unlived.same (h : Unlived start w)
    (hAnalytics : ∀ source, after.analytics.lookup (stateKey source) =
      w.analytics.lookup (stateKey source))
    (hHistory : after.history = w.history) : Unlived start after := by
  constructor
  · intro source
    exact (hAnalytics source).trans (h.absent source)
  · rw [hHistory]
    exact h.unpublished

/-- A backfill publishes, but not as a live event. -/
theorem Unlived.backfill (h : Unlived start w) {source : IngestSource}
    (hBackfill : source.sequencer = none) {outcome : Outcome Exn Unit}
    (hEffect : Effect s plan source w outcome after) : Unlived start after := by
  constructor
  · intro other
    rw [hEffect.lookup_of_backfill hBackfill (owned_stateKey source other)]
    exact h.absent other
  · intro other hLive hPublished
    have hOther : other ≠ source := by
      rintro rfl
      exact hLive hBackfill
    apply h.unpublished other hLive
    rcases hEffect.history with hHistory | hHistory
    · rw [hHistory] at hPublished
      simpa using hPublished
    · rw [hHistory] at hPublished
      simpa [hOther] using hPublished

/-- A live event is rejected. -/
theorem Unlived.live (h : Unlived start w) {source : IngestSource} {sequencer : Str}
    (hSequencer : source.sequencer = some sequencer)
    (hDenied : ∀ calls, plan calls (.getState (stateKey source)) = .fail accessDenied false)
    (calls : Nat) : Unlived start (s.processCsvAsync source plan calls w).state := by
  obtain ⟨_, _, hNever⟩ | ⟨_, _, hQuiet⟩ | ⟨_, hNever⟩ :=
    (processCsvAsync_denied hDenied s hSequencer w).ends calls
  · exact hNever.elim
  · constructor
    · intro other
      rw [hQuiet.analytics]
      exact h.absent other
    · intro other hLive hPublished
      rw [hQuiet.history] at hPublished
      apply h.unpublished other hLive
      simpa [World.recordProcessing] using hPublished
  · exact hNever.elim

theorem unlived_keptByRuns (s : IngestService)
    (hDenied : ∀ source calls, plan calls (.getState (stateKey source)) = .fail accessDenied false) :
    KeptByRuns s plan (Unlived start) where
  alongside := by
    intro w after hSame h
    exact h.same (fun source => by rw [hSame.analytics]) hSame.history
  run := by
    intro source
    rw [keeps_iff]
    intro calls w h
    cases hSequencer : source.sequencer with
    | none => exact h.backfill hSequencer (s.processCsvAsync_effect source plan calls w).2
    | some sequencer => exact h.live hSequencer (hDenied source) calls

end Step

/-- While nothing is saved the role denies every read of a state object. -/
theorem denied_of_unlived {p : IngestPipeline} {plan : FaultPlan} {start w : World}
    (hGranted : ∀ statement ∈ p.granted,
      statement.actions.any (like · "s3:ListBucket".toList) = false)
    (hPlan : Authorizes p w plan) (h : Unlived start w) (source : IngestSource) (calls : Nat) :
    plan calls (.getState (stateKey source)) = .fail accessDenied false := by
  rw [hPlan, authorization_of_absent hGranted source (h.absent source)]

/-- Where no sequencer has been saved yet, none ever is: over any run under the role,
with any payloads and any other failures, every live event is rejected and none is
published. -/
theorem IngestPipeline.live_path_closed (p : IngestPipeline)
    (hGranted : ∀ statement ∈ p.granted,
      statement.actions.any (like · "s3:ListBucket".toList) = false)
    {f : KiroIngest.Function} {start w : World} (h : f.Reaches (Authorizes p) start w)
    (hStart : ∀ source, start.analytics.lookup (stateKey source) = none) :
    (∀ source, w.analytics.lookup (stateKey source) = none) ∧
      (∀ source, source.sequencer ≠ none → .published source ∈ w.history →
        .published source ∈ start.history) ∧
      ∀ plan, Authorizes p w plan → ∀ source, source.sequencer ≠ none → ∀ calls,
        ∃ error, (f.ingest.processCsvAsync source plan calls w).outcome = .threw error := by
  have hUnlived : Unlived start w := by
    apply h.invariant (fun w plan hPlan hNow =>
      unlived_keptByRuns f.ingest (denied_of_unlived hGranted hPlan hNow))
    · intro w after hOwn hHistory hNow
      exact hNow.same (fun source => hOwn _ (isIngestKey_stateKey source)) hHistory
    · exact ⟨hStart, fun _ _ hPublished => hPublished⟩
  refine ⟨hUnlived.absent, hUnlived.unpublished, fun plan hPlan source hLive calls => ?_⟩
  obtain ⟨sequencer, hSequencer⟩ := Option.ne_none_iff_exists'.mp hLive
  obtain ⟨_, _, hNever⟩ | ⟨error, hThrew, _⟩ | ⟨_, hNever⟩ :=
    (processCsvAsync_denied (denied_of_unlived hGranted hPlan hUnlived source) f.ingest hSequencer
      w).ends calls
  · exact hNever.elim
  · exact ⟨error, hThrew⟩
  · exact hNever.elim

section Example

/-- The event of the example is delivered to an empty bucket, and then again. -/
theorem live_path_closed_example :
    let rejected := (exampleNotified.handleAsync exampleNotification
      (rolePlan examplePipeline exampleUntouched) 0 exampleUntouched).state
    ∃ error, (exampleService.processCsvAsync exampleLive (rolePlan examplePipeline rejected) 0
      rejected).outcome = .threw error := by
  have hReached : exampleNotified.Reaches (Authorizes examplePipeline) exampleUntouched _ :=
    .invoke .start (fun _ _ => rfl : Authorizes examplePipeline exampleUntouched
      (rolePlan examplePipeline exampleUntouched)) exampleNotification 0
  exact (examplePipeline.live_path_closed examplePipeline_granted hReached
    fun _ => AList.lookup_empty _).2.2 _ (fun _ _ => rfl) exampleLive nofun 0

end Example

end KiroInfra
