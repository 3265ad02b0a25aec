import KiroUsage.Ingest.Reached

/-! Where the objects of the two facts come from. Over any run each of them is an
output of the transform, of a report and a Target List that were there when an
invocation began. -/
namespace KiroIngest

open Text Storage Execution ReportTransform

/-- The object is an output for a report and a Target List that a world holds. -/
def ProducedIn (s : IngestService) (w : World) (key : Str) (body : ObjectBody) : Prop :=
  ∃ source csv targetList result,
    w.readRaw source.bucket source.key source.versionId = .ok csv ∧
    parseTargetList s.platform w.targetListParameter = .ok targetList ∧
    transform s.platform csv targetList = .ok result ∧
    (key, body) ∈ prepareOutputs source result ∧
    ∀ email ∈ body.emails, targetList email = true

/-- The facts of a world are those of an earlier one, or new outputs of a third. -/
def FactsFrom (s : IngestService) (earlier origin w : World) : Prop :=
  ∀ key body, isFactKey key = true → w.analytics.lookup key = some body →
    earlier.analytics.lookup key = some body ∨ ProducedIn s origin key body

section Step

variable {s : IngestService} {origin w after : World}

theorem producedIn_of_transformed {source : IngestSource} {result : TransformResult} {key : Str}
    {body : ObjectBody} (hResult : s.transformed source w = .ok result)
    (hOutput : (key, body) ∈ prepareOutputs source result) (hRaw : w.raw = origin.raw)
    (hList : w.targetListParameter = origin.targetListParameter) : ProducedIn s origin key body := by
  obtain ⟨csv, targetList, hCsv, hTarget, hTransform⟩ := transformed_eq_ok hResult
  rw [World.readRaw, hRaw] at hCsv
  rw [hList] at hTarget
  exact ⟨source, csv, targetList, result, hCsv, hTarget, hTransform, hOutput,
    prepareOutputs_listed hTransform hOutput⟩

/-- The step: what a run writes is an output of the transform. -/
theorem factsFrom_keptByRuns (s : IngestService) (plan : FaultPlan) (origin : World) :
    KeptByRuns s plan fun w => w.raw = origin.raw ∧
      w.targetListParameter = origin.targetListParameter ∧ FactsFrom s origin origin w where
  alongside := by
    rintro w after hSame ⟨hRaw, hList, hFacts⟩
    refine ⟨hSame.raw.trans hRaw, hSame.targetListParameter.trans hList, ?_⟩
    intro key body hFact hLookup
    rw [hSame.analytics] at hLookup
    exact hFacts key body hFact hLookup
  run := by
    intro source
    rw [keeps_iff]
    rintro calls w ⟨hRaw, hList, hFacts⟩
    obtain ⟨hFrame, hEffect⟩ := s.processCsvAsync_effect source plan calls w
    refine ⟨hFrame.raw.trans hRaw, hFrame.targetListParameter.trans hList, ?_⟩
    intro key body hFact hLookup
    obtain hNone | hSame | ⟨result, written, hResult, hOutput, hWritten⟩ := hEffect.lookup_cases hFact
    · cases hNone.symm.trans hLookup
    · exact hFacts key body hFact (hSame ▸ hLookup)
    · cases hWritten.symm.trans hLookup
      exact Or.inr (producedIn_of_transformed hResult hOutput hRaw hList)

end Step

/-- Over any run, each object of the two facts was there at the start or is an output
for the report and the Target List of a world that the run came through, and all its
rows are of users on that Target List. -/
theorem Function.Reaches.facts_produced {f : Function} {plans : World → FaultPlan → Prop}
    {start w : World} (h : f.Reaches plans start w) {key : Str} {body : ObjectBody}
    (hFact : isFactKey key = true) (hLookup : w.analytics.lookup key = some body) :
    start.analytics.lookup key = some body ∨
      ∃ origin, f.Reaches plans start origin ∧ ProducedIn f.ingest origin key body := by
  induction h generalizing body with
  | start => exact Or.inl hLookup
  | @invoke w plan hReached _ input calls ih =>
      obtain ⟨_, _, hFacts⟩ := keeps_iff.mp
        ((factsFrom_keptByRuns f.ingest plan w).handleAsync input) calls w
        ⟨rfl, rfl, fun _ _ _ hSame => Or.inl hSame⟩
      obtain hBefore | hProduced := hFacts key body hFact hLookup
      · exact ih hBefore
      · exact Or.inr ⟨w, hReached, hProduced⟩
  | other _ hOwn _ ih =>
      apply ih
      rw [← hOwn key (by rw [isIngestKey, hFact, Bool.true_or])]
      exact hLookup

section Example

/-- The object of the example's only row. -/
def exampleUsage : ObjectBody :=
  .usageDaily [⟨['u'], ['a'], 1, 0, 0, 0, false, ['t'], 2, false, ['p']⟩]

/-- The report comes in and is published. -/
theorem facts_produced_example :
    ∃ origin, exampleNotified.Reaches (fun _ plan => plan = Plan.healthy) exampleShelf origin ∧
      ProducedIn exampleService origin exampleOutputKey exampleUsage := by
  have hReached : exampleNotified.Reaches (fun _ plan => plan = Plan.healthy) exampleShelf _ :=
    .invoke .start rfl exampleNotification 0
  have hPublished : (exampleNotified.handleAsync exampleNotification Plan.healthy 0
      exampleShelf).state.analytics.lookup exampleOutputKey = some exampleUsage := by
    decide +kernel
  refine (hReached.facts_produced rfl hPublished).resolve_left fun hStart => ?_
  cases (AList.lookup_empty exampleOutputKey).symm.trans hStart

end Example

end KiroIngest
