import KiroUsage.Ingest.Coverage
import KiroUsage.Ingest.Isolation

/-! Removing users from the Target List. After a backfill under the new list the
objects of all reports within its bounds hold rows of Target Users only. Their
prior content is unknown, and live events may be handled in between. -/
namespace KiroIngest

open Text Storage Execution ReportTransform

/-- A fact object all of whose rows belong to the Target List. -/
def ObjectBody.Listed (targetList : Str → Bool) : ObjectBody → Prop
  | usageDaily rows => ∀ row ∈ rows, targetList row.userEmail = true
  | modelMessages rows => ∀ row ∈ rows, targetList row.userEmail = true
  | _ => False

/-- All objects with a name of the source hold rows of the Target List only. -/
def World.Listed (targetList : Str → Bool) (w : World) (source : IngestSource) : Prop :=
  ∀ key body, owned source key = true → w.analytics.lookup key = some body →
    body.Listed targetList

/-- The deliveries of one backfill under a constant Target List. A payload is
delivered once an invocation with it returns. In between, S3 events may be
handled, with any failures, and raw objects may change. -/
def removalHandling (f : Function) (respond : Option Str → ListObjectsV2Response)
    (parameter : Option Str) : Handling World Json :=
  backfillHandling f
    (fun w => w.rawListing = respond ∧ w.invocations = [] ∧ w.targetListParameter = parameter)
    (fun _ outcome => outcome = .returned ())
    (fun w after =>
      (∃ records plan paging,
        after = (f.handleS3EventAsync records plan 0 { w with paging }).state) ∨
      ∃ raw, after = { w with raw })

section Listed

variable {s : IngestService} {parameter : Option Str} {targetList : Str → Bool}

theorem listed_of_mem {source : IngestSource} {w : World} {result : TransformResult}
    (hTarget : parseTargetList s.platform parameter = .ok targetList)
    (hParameter : w.targetListParameter = parameter)
    (hResult : s.transformed source w = .ok result) {output : Str × ObjectBody}
    (hOutput : output ∈ prepareOutputs source result) : output.2.Listed targetList := by
  obtain ⟨_, targetList', _, hTarget', hTransform⟩ := transformed_eq_ok hResult
  rw [hParameter, hTarget] at hTarget'
  cases hTarget'
  have hEmails := prepareOutputs_listed hTransform hOutput
  obtain ⟨p, _, rfl | ⟨_, rfl⟩⟩ := mem_prepareOutputs.mp hOutput
  · exact fun row hRow => hEmails _ (List.mem_map.mpr ⟨row, hRow, rfl⟩)
  · exact fun row hRow => hEmails _ (List.mem_map.mpr ⟨row, hRow, rfl⟩)

/-- No run brings back a row outside the Target List, and a backfill that returns
removes those of its source. -/
theorem listed_achieves (hTarget : parseTargetList s.platform parameter = .ok targetList)
    {plan : FaultPlan} {sources : List IngestSource} {settled : Outcome Exn Unit → Prop}
    (hSettled : ∀ source ∈ sources, ∀ outcome, settled outcome →
      outcome = .returned () ∧ source.sequencer = none) :
    Achieves s plan sources settled (fun w => w.targetListParameter = parameter)
      (World.Listed targetList) where
  same := by
    intro w after hAnalytics _ _ hParameter hInvariant
    refine ⟨hParameter.trans hInvariant, fun source hListed key body hOwned hBody => ?_⟩
    exact hListed key body hOwned (by rw [← hAnalytics, hBody])
  run := by
    intro source outcome w after hSource hFrame hEffect hInvariant
    refine ⟨hFrame.targetListParameter.trans hInvariant, fun hOutcome => ?_, ?_⟩
    · obtain ⟨hReturned, hBackfill⟩ := hSettled source hSource outcome hOutcome
      obtain ⟨result, hResult, hShown⟩ := hEffect.published_of_returned hReturned hBackfill
      intro key body hOwned hBody
      exact listed_of_mem hTarget hInvariant hResult
        (mem_of_written ((hShown key hOwned).symm.trans hBody))
    · intro other hListed key body hOwned hBody
      rcases hEffect.lookup_cases (isFactKey_of_owned hOwned) with hNone | hOld |
        ⟨result, body', hResult, hOutput, hNew⟩
      · cases hBody.symm.trans hNone
      · exact hListed key body hOwned (hOld.symm.trans hBody)
      · cases hBody.symm.trans hNew
        exact listed_of_mem hTarget hInvariant hResult hOutput

end Listed

/-- Complete removal: once a backfill is through, no object with a name of a
report within its bounds holds a row outside the Target List. -/
theorem Function.backfill_removes (f : Function) {fromDate toDate : Option DateOnly} {root : Json}
    {respond : Option Str → ListObjectsV2Response} {listing : Listing Str Str}
    {parameter : Option Str} {targetList : Str → Bool} {w : World}
    (hRoot : Requests root ⟨some BackfillRequest.modeValue, fromDate, toDate, none⟩)
    (hListing : RawListing respond listing)
    (hTarget : parseTargetList f.ingest.platform parameter = .ok targetList)
    (hRuns : (removalHandling f respond parameter).Runs root w []) :
    ∀ key ∈ listing.objects, IngestService.selects fromDate toDate key = true →
      ∃ source, IngestSource.create f.ingest.rawBucket key none none = .ok source ∧
        ∀ path body, owned source path = true → w.analytics.lookup path = some body →
          body.Listed targetList := by
  have hAchieves (plan : FaultPlan) : Achieves f.ingest plan
      (f.ingest.selected fromDate toDate listing.objects) (· = .returned ())
      (fun w => w.targetListParameter = parameter) (World.Listed targetList) := by
    refine listed_achieves hTarget fun source hSource outcome hReturned => ⟨hReturned, ?_⟩
    obtain ⟨key, _, _, hMade⟩ := IngestService.mem_selected.mp hSource
    exact f.ingest.sequencer_of_create hMade
  have hOther (w after : World)
      (hStep : (∃ records plan paging,
          after = (f.handleS3EventAsync records plan 0 { w with paging }).state) ∨
        ∃ raw, after = { w with raw })
      (hParameter : w.targetListParameter = parameter) :
      after.invocations = w.invocations ∧ after.rawListing = w.rawListing ∧
        after.targetListParameter = parameter ∧
          ∀ source, World.Listed targetList w source → World.Listed targetList after source := by
    rcases hStep with ⟨records, plan, paging, rfl⟩ | ⟨raw, rfl⟩
    · obtain ⟨runs, hTrace, hSources, _⟩ := f.handleS3EventAsync_trace plan records 0 { w with paging }
      have hLive : Achieves f.ingest plan (f.sources (records.getD [])) (fun _ => False)
          (fun w => w.targetListParameter = parameter) (World.Listed targetList) :=
        listed_achieves hTarget fun _ _ _ h => h.elim
      obtain ⟨hAfter, _, hKept⟩ := hTrace.achieves hLive hSources hParameter
      exact ⟨hTrace.frame.invocations, hTrace.frame.rawListing, hAfter, hKept⟩
    · exact ⟨rfl, rfl, hParameter, fun _ hListed => hListed⟩
  have hReliable : (removalHandling f respond parameter).Reliable root _ _ :=
    backfill_reliable (f := f) hRoot hListing hAchieves
      (fun w ⟨hRespond, hInvocations, hParameter⟩ => ⟨hInvocations, hRespond, hParameter⟩)
      (fun plan outcome hReturned => Or.inr ⟨hReturned, rfl⟩) hOther
  obtain ⟨_, _, hDone⟩ := backfill_achieves hListing hReliable hRuns
  intro key hKey hSelects
  obtain ⟨source, hMade⟩ := f.ingest.create_of_selects fromDate toDate hSelects
  exact ⟨source, hMade, hDone rfl source
    (IngestService.mem_selected.mpr ⟨key, hKey, hSelects, hMade⟩)⟩

section Example

/-- One page with one report, and an object from before the list changed. -/
def exampleStale : World where
  raw := [⟨['b'], exampleReportKey "20".toList, ['1'], exampleReport ['a']⟩]
  rawListing := fun _ => ⟨some [exampleReportKey "20".toList], none, none⟩
  analytics := AList.insert (exampleLegacyKey usageDailyPrefix)
    (.usageDaily [⟨['u'], ['z'], 1, 0, 0, 0, false, ['t'], 2, false, ['p']⟩]) ∅
  paging := Paging.single
  targetListParameter := some ['a']
  invocations := []
  log := []
  history := []

def exampleTargetList (email : Str) : Bool :=
  [['a']].any fun target => target.map Char.toUpper == email.map Char.toUpper

/-- The backfill returns, and no row of the removed user is left. -/
theorem backfill_removes_example :
    ∃ source, IngestSource.create ['b'] (exampleReportKey "20".toList) none none = .ok source ∧
      ∀ path body, owned source path = true →
        (exampleStale.invoked exampleRoot).analytics.lookup path = some body →
          body.Listed exampleTargetList := by
  have hRoot : Requests exampleRoot ⟨some BackfillRequest.modeValue, none, none, none⟩ :=
    ⟨_, _, rfl, rfl, rfl, rfl⟩
  have hListing : RawListing exampleStale.rawListing (.last [exampleReportKey "20".toList]) :=
    ⟨.last rfl, fun _ _ => nofun⟩
  have hReturned : (exampleFunction.handleAsync exampleRoot Plan.healthy 0
      { exampleStale with paging := Paging.single }).outcome = .returned () :=
    Outcome.eq_returned (by decide +kernel)
  obtain ⟨_, hSent⟩ := invoked_page hRoot (hListing.linked none .first) (by rw [hReturned]; nofun)
  have hStart : (removalHandling exampleFunction exampleStale.rawListing (some ['a'])).Runs
      exampleRoot exampleStale ([] ++ [exampleRoot]) := .start ⟨rfl, rfl, rfl⟩
  have hDelivered : (removalHandling exampleFunction exampleStale.rawListing
      (some ['a'])).acknowledged exampleStale exampleRoot (exampleStale.invoked exampleRoot) :=
    ⟨Plan.healthy, Paging.single, hReturned, rfl⟩
  have hNewly : (removalHandling exampleFunction exampleStale.rawListing (some ['a'])).newly
      exampleStale (exampleStale.invoked exampleRoot) = [] := by
    unfold Handling.newly
    rw [show (removalHandling exampleFunction exampleStale.rawListing (some ['a'])).sent =
      World.invocations from rfl, hSent]
    rfl
  have hTarget : parseTargetList exampleFunction.ingest.platform (some ['a']) =
      .ok exampleTargetList := rfl
  have hRuns := hStart.acknowledge hDelivered
  rw [hNewly] at hRuns
  exact exampleFunction.backfill_removes hRoot hListing hTarget hRuns _ List.mem_cons_self
    (by decide)

end Example

end KiroIngest
