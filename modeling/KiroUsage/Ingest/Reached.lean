import KiroUsage.Ingest.Retries
import KiroUsage.Ingest.Dependence
import KiroUsage.Semantics.Invariant

/-! All that can become of the function's objects. It may be invoked with any
payloads, its calls may fare in any way, and between two invocations others may
change whatever is not the function's own. -/
namespace KiroIngest

open Text Storage Execution ReportTransform

namespace Function

variable (f : Function) (plans : World → FaultPlan → Prop) (start : World)

/-- The worlds that are reached under plans that may depend on the world. -/
inductive Reaches : World → Prop
  | start : Reaches start
  | invoke {w : World} {plan : FaultPlan} (h : Reaches w) (hPlan : plans w plan) (input : Json)
      (calls : Nat) : Reaches (f.handleAsync input plan calls w).state
  | other {w after : World} (h : Reaches w)
      (hOwn : ∀ key, isIngestKey key = true → after.analytics.lookup key = w.analytics.lookup key)
      (hHistory : after.history = w.history) : Reaches after

end Function

/-- What an invariant must not depend on while the function runs. -/
structure Alongside (w after : World) : Prop where
  analytics : after.analytics = w.analytics
  history : after.history = w.history
  raw : after.raw = w.raw
  targetListParameter : after.targetListParameter = w.targetListParameter

/-- An invariant that each run of `ProcessCsvAsync` keeps. -/
structure KeptByRuns (s : IngestService) (plan : FaultPlan) (invariant : World → Prop) : Prop where
  alongside : ∀ w after, Alongside w after → invariant w → invariant after
  run : ∀ source, Keeps plan invariant (s.processCsvAsync source)

namespace KeptByRuns

variable {s : IngestService} {f : Function} {plan : FaultPlan} {invariant : World → Prop}

theorem logLine (h : KeptByRuns s plan invariant) (event : LogEvent) :
    Keeps plan invariant (logLine event) :=
  Keeps.modify fun w => h.alongside w _ ⟨rfl, rfl, rfl, rfl⟩

theorem attempt (h : KeptByRuns s plan invariant) (created : Except Exn IngestSource) :
    Keeps plan invariant (Async.attempt (Async.ofExcept created >>= s.processCsvAsync)) :=
  (Keeps.bind (.ofExcept created) h.run).attempt

theorem backfillObject (h : KeptByRuns s plan invariant) (fromDate toDate : Option DateOnly)
    (key : Str) : Keeps plan invariant (s.backfillObject fromDate toDate key) := by
  unfold IngestService.backfillObject
  split_ifs
  · cases extractDateFromKey key with
    | none => exact (h.logLine _).bind fun _ => .done _
    | some keyDate =>
        dsimp only
        split_ifs
        · exact .done _
        · exact (h.attempt _).bind fun _ => .done _
  · exact .done _

theorem backfillObjects (h : KeptByRuns s plan invariant) (fromDate toDate : Option DateOnly)
    (keys : List Str) (processed : Nat) (failures : List Exn) :
    Keeps plan invariant (s.backfillObjects fromDate toDate keys processed failures) := by
  induction keys generalizing processed failures with
  | nil => exact .done _
  | cons key rest ih => exact (h.backfillObject fromDate toDate key).bind fun _ => ih _ _

theorem scheduleNext (h : KeptByRuns s plan invariant) (fromDate toDate : Option DateOnly)
    (token : Option Str) : Keeps plan invariant (s.scheduleNext fromDate toDate token) := by
  unfold IngestService.scheduleNext
  cases token with
  | none => exact .done _
  | some token =>
      apply Keeps.catching
      · unfold awsUpdate aws
        exact Keeps.call fun w => h.alongside w _ ⟨rfl, rfl, rfl, rfl⟩
      · exact fun _ => .throwing _

theorem processBackfillAsync (h : KeptByRuns s plan invariant) (fromDate toDate : Option DateOnly)
    (token : Option Str) :
    Keeps plan invariant (s.processBackfillAsync fromDate toDate token) := by
  unfold IngestService.processBackfillAsync
  split_ifs
  · exact .throwing _
  · apply (h.logLine _).bind
    intro _
    have hQuery : Keeps plan invariant
        (awsQuery (.listRaw token) fun w => .ok (w.rawListing token)) := Keeps.call fun _ hState => hState
    apply hQuery.bind
    intro response
    apply Keeps.bind (.ofExcept _)
    intro next
    apply (h.scheduleNext fromDate toDate next).bind
    intro _
    apply (h.backfillObjects fromDate toDate _ 0 []).bind
    intro _
    apply (h.logLine _).bind
    intro _
    split_ifs
    · exact .throwing _
    · exact .done _

theorem handleRecords (h : KeptByRuns f.ingest plan invariant) (records : List S3Record)
    (failures : List Exn) : Keeps plan invariant (f.handleRecords records failures) := by
  induction records generalizing failures with
  | nil => exact .done _
  | cons record rest ih => exact (h.attempt _).bind fun _ => ih _

theorem handleS3EventAsync (h : KeptByRuns f.ingest plan invariant)
    (records : Option (List S3Record)) : Keeps plan invariant (f.handleS3EventAsync records) := by
  apply (h.handleRecords _ _).bind
  intro failures
  split_ifs
  · exact .throwing _
  · exact .done _

theorem handleModeRequestAsync (h : KeptByRuns f.ingest plan invariant) (root mode : Json) :
    Keeps plan invariant (f.handleModeRequestAsync root mode) := by
  cases mode with
  | string _ =>
      apply Keeps.bind (.ofExcept _)
      rintro (_ | backfill)
      · exact .throwing _
      · exact Keeps.bind (.ofExcept _) fun _ => h.processBackfillAsync _ _ _
  | _ => exact .throwing _

theorem dispatch (h : KeptByRuns f.ingest plan invariant) (input : Json) :
    Keeps plan invariant (f.dispatch input) := by
  unfold Function.dispatch
  split
  · split
    · exact h.handleModeRequestAsync _ _
    · split
      · apply Keeps.bind (.ofExcept _)
        rintro (_ | records)
        · exact .throwing _
        · exact h.handleS3EventAsync records
      · exact .throwing _
  · exact .throwing _

/-- What every run keeps, every invocation keeps. -/
theorem handleAsync (h : KeptByRuns f.ingest plan invariant) (input : Json) :
    Keeps plan invariant (f.handleAsync input) :=
  (h.dispatch input).catching fun _ => (h.logLine _).bind fun _ => .throwing _

end KeptByRuns

/-- What all invocations keep, under plans that may rely on it, and what depends on the
function's own objects and the history alone, holds in every world that is reached. -/
theorem Function.Reaches.invariant {f : Function} {plans : World → FaultPlan → Prop}
    {start w : World} {invariant : World → Prop} (h : f.Reaches plans start w)
    (hKept : ∀ w plan, plans w plan → invariant w → KeptByRuns f.ingest plan invariant)
    (hOther : ∀ w after, (∀ key, isIngestKey key = true →
      after.analytics.lookup key = w.analytics.lookup key) → after.history = w.history →
        invariant w → invariant after) (hStart : invariant start) : invariant w := by
  induction h with
  | start => exact hStart
  | invoke _ hPlan input calls ih =>
      exact keeps_iff.mp ((hKept _ _ hPlan ih).handleAsync input) calls _ ih
  | other _ hOwn hHistory ih => exact hOther _ _ hOwn hHistory ih

/-- A backfill leaves everything but the outputs of its source alone. -/
theorem Effect.lookup_of_backfill {s : IngestService} {plan : FaultPlan} {source : IngestSource}
    {before after : World} {outcome : Outcome Exn Unit}
    (h : Effect s plan source before outcome after) (hBackfill : source.sequencer = none) {key : Str}
    (hOwned : owned source key = false) : after.analytics.lookup key = before.analytics.lookup key := by
  have hSame (complete : Bucket Str ObjectBody) : withSequencer source complete = complete := by
    rw [withSequencer, hBackfill]
  have hComplete {result : TransformResult} {complete : Bucket Str ObjectBody}
      (hReconciled : Reconciled (owned source) (prepareOutputs source result) before.analytics complete) :
      complete.lookup key = before.analytics.lookup key := by
    rw [hReconciled key, hOwned]
    rfl
  cases h with
  | skipped _ _ hAnalytics _ => rw [hAnalytics]
  | interrupted _ _ hAnalytics _ => rw [hAnalytics]
  | torn _ _ _ _ _ hMixed _ _ => exact (hMixed key).2 hOwned
  | unsaved _ complete _ _ _ _ hReconciled hAnalytics _ =>
      rw [hSame, or_self] at hAnalytics
      rw [hAnalytics, hComplete hReconciled]
  | published _ complete _ _ _ hReconciled hAnalytics _ =>
      rw [hAnalytics, hSame, hComplete hReconciled]

/-- A state object is as before, or the run has saved the sequencer of a fresh event. -/
theorem Effect.state_written {s : IngestService} {plan : FaultPlan} {source : IngestSource}
    {before after : World} {outcome : Outcome Exn Unit}
    (h : Effect s plan source before outcome after) (other : IngestSource) :
    after.analytics.lookup (stateKey other) = before.analytics.lookup (stateKey other) ∨
      ∃ sequencer, source.sequencer = some sequencer ∧ stateKey other = stateKey source ∧
        before.staleEvent source = .ok false ∧
        after.analytics.lookup (stateKey other) = some (.sequencerState (some sequencer)) := by
  by_cases hKey : stateKey other = stateKey source
  · by_cases hFresh : before.staleEvent source = .ok false
    · rw [hKey]
      obtain hSame | ⟨hSaved, _⟩ := h.state_cases
      · exact Or.inl hSame
      · cases hSequencer : source.sequencer with
        | none => exact Or.inl (h.lookup_of_backfill hSequencer (owned_stateKey source source))
        | some sequencer =>
            rw [World.HasSaved, hSequencer] at hSaved
            exact Or.inr ⟨sequencer, rfl, rfl, hFresh, hSaved⟩
    · exact Or.inl (by rw [h.analytics_of_not_fresh hFresh])
  · exact Or.inl (h.lookup_other (owned_stateKey source other) hKey)

end KiroIngest
