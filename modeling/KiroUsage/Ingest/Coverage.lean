import KiroUsage.Ingest.PageWalk
import KiroUsage.Ingest.Reconciliation

/-! Coverage of a backfill. Every report within the bounds is processed and
nothing else is, however many pages the listing has, in whatever order and
however often their invocations are delivered, and whichever reports fail. -/
namespace KiroIngest

open Text Storage Execution

/-- The deliveries of one backfill. A payload is delivered once an invocation
with it is neither stopped nor failed in its listing and scheduling calls.
Between invocations anything but the listing may change. -/
def coverageHandling (f : Function) (respond : Option Str → ListObjectsV2Response) :
    Handling World Json :=
  backfillHandling f
    (fun w => w.rawListing = respond ∧ w.invocations = [] ∧ w.history = [])
    (fun plan outcome => outcome ≠ .killed ∧ ¬DisturbsPaging plan)
    (fun w after => after.rawListing = w.rawListing ∧ after.invocations = w.invocations ∧
      after.history = w.history)

/-- Each run of `ProcessCsvAsync` is recorded, and nothing is forgotten. -/
theorem coverage_achieves (s : IngestService) (plan : FaultPlan) (sources : List IngestSource) :
    Achieves s plan sources (fun _ => True)
      (fun w => ∀ source, .processing source ∈ w.history → source ∈ sources)
      (fun w source => .processing source ∈ w.history) where
  same := by
    intro w after _ hHistory _ _ hOnly
    rw [hHistory]
    exact ⟨hOnly, fun _ h => h⟩
  run := by
    intro source outcome w after hSource _ hEffect hOnly
    have hMem (other : IngestSource) : .processing other ∈ after.history ↔
        .processing other ∈ w.history ∨ other = source := by
      rcases hEffect.history with hHistory | hHistory
      · simp [hHistory]
      · simp [hHistory]
    refine ⟨fun other h => ?_, fun _ => (hMem source).mpr (Or.inr rfl),
      fun other h => (hMem other).mpr (Or.inl h)⟩
    rcases (hMem other).mp h with hOld | rfl
    · exact hOnly other hOld
    · exact hSource

/-- Backfill coverage: once no invocation is pending, every report within the
bounds has been processed, and never anything else. Every payload that was sent
is accepted and leads back to the page walk with the same bounds. -/
theorem Function.backfill_covers (f : Function) {fromDate toDate : Option DateOnly} {root : Json}
    {respond : Option Str → ListObjectsV2Response} {listing : Listing Str Str} {w : World}
    {pending : List Json}
    (hRoot : Requests root ⟨some BackfillRequest.modeValue, fromDate, toDate, none⟩)
    (hListing : RawListing respond listing)
    (hRuns : (coverageHandling f respond).Runs root w pending) :
    (pending = [] → ∀ key ∈ listing.objects, IngestService.selects fromDate toDate key = true →
      ∃ source, IngestSource.create f.ingest.rawBucket key none none = .ok source ∧
        .processing source ∈ w.history) ∧
    (∀ source, .processing source ∈ w.history → ∃ key ∈ listing.objects,
      IngestService.selects fromDate toDate key = true ∧
        IngestSource.create f.ingest.rawBucket key none none = .ok source) ∧
    ∀ payload ∈ w.invocations, ∃ token,
      payload = (continuationRequest fromDate toDate token).serialize ∧
      Requests payload (continuationRequest fromDate toDate token) ∧
      f.dispatch payload = f.ingest.processBackfillAsync fromDate toDate (some token) := by
  have hReliable : (coverageHandling f respond).Reliable root _ _ :=
    backfill_reliable (f := f) hRoot hListing (fun plan => coverage_achieves _ plan _)
      (fun w ⟨hRespond, hInvocations, hHistory⟩ =>
        ⟨hInvocations, hRespond, fun source h => by rw [hHistory] at h; cases h⟩)
      (fun plan outcome ⟨hAlive, hUndisturbed⟩ => Or.inl ⟨hAlive, hUndisturbed, fun _ => trivial⟩)
      (fun w after ⟨hSame, hInvocations, hHistory⟩ hOnly =>
        ⟨hInvocations, hSame, by rwa [hHistory], fun source h => by rwa [hHistory]⟩)
  obtain ⟨hOnly, hPages, hDone⟩ := backfill_achieves hListing hReliable hRuns
  refine ⟨fun hPending key hKey hSelects => ?_, fun source h => ?_, fun payload hm => ?_⟩
  · obtain ⟨source, hMade⟩ := f.ingest.create_of_selects fromDate toDate hSelects
    exact ⟨source, hMade, hDone hPending source
      (IngestService.mem_selected.mpr ⟨key, hKey, hSelects, hMade⟩)⟩
  · exact IngestService.mem_selected.mp (hOnly source h)
  · obtain ⟨token, hAsked, rfl⟩ := hPages payload hm
    have hRequests := requests_pagePayload hRoot hListing hAsked
    exact ⟨token, rfl, hRequests, f.dispatch_of_requests hRequests⟩

section Example

def exampleFunction : Function := ⟨exampleService, fun _ => .ok none⟩

/-- The key of a report of one day. -/
def exampleReportKey (day : Str) : Str := "k/2026/06/".toList ++ day ++ "/00/k.csv".toList

/-- Two pages, each with one report. -/
def exampleRespond : Option Str → ListObjectsV2Response
  | none => ⟨some [exampleReportKey "20".toList], some true, some ['t']⟩
  | some _ => ⟨some [exampleReportKey "21".toList], none, none⟩

def exampleRoot : Json := .object [("mode".toList, .string BackfillRequest.modeValue)]

def exampleListed : World := { exampleWorld [] ∅ with rawListing := exampleRespond }

theorem exampleRoot_requests :
    Requests exampleRoot ⟨some BackfillRequest.modeValue, none, none, none⟩ :=
  ⟨_, _, rfl, rfl, rfl, rfl⟩

theorem exampleRespond_listing : RawListing exampleRespond (.more [exampleReportKey "20".toList] ['t']
    (.last [exampleReportKey "21".toList])) := by
  refine ⟨.more rfl (.last rfl), fun token _ hMore => ?_⟩
  cases token with
  | none => exact ⟨['t'], rfl, rfl⟩
  | some _ => cases hMore

/-- The world after an undisturbed invocation. -/
def World.invoked (payload : Json) (w : World) : World :=
  (exampleFunction.handleAsync payload Plan.healthy 0 { w with paging := Paging.single }).state

/-- An undisturbed invocation for a page sends the payload of the next page. -/
theorem invoked_page {payload : Json} {request : BackfillRequest} {w : World}
    (h : Requests payload request) (hLinked : (w.rawListing request.continuationToken).Linked)
    (hAlive : (exampleFunction.handleAsync payload Plan.healthy 0
      { w with paging := Paging.single }).outcome ≠ .killed) :
    (w.invoked payload).rawListing = w.rawListing ∧
      (w.invoked payload).invocations = w.invocations ++ continuations request.fromDate
        request.toDate (w.rawListing request.continuationToken) := by
  have hUndisturbed : ¬DisturbsPaging Plan.healthy :=
    fun ⟨request, _, hDisturbs⟩ => not_disturbs_healthy request hDisturbs
  obtain ⟨_, hPage⟩ := (exampleFunction.handleAsync_page h Plan.healthy 0
    { w with paging := Paging.single } hLinked).2.1 hAlive hUndisturbed
  exact ⟨hPage.trace.frame.rawListing, hPage.invocations⟩

def exampleContinuation : Json := (continuationRequest none none ['t']).serialize

/-- Both pages have been walked. -/
def exampleWalked : World := (exampleListed.invoked exampleRoot).invoked exampleContinuation

/-- Neither raw object exists, so both reports fail. Both have been tried. -/
theorem backfill_covers_example :
    (∃ source, IngestSource.create ['b'] (exampleReportKey "20".toList) none none = .ok source ∧
      .processing source ∈ exampleWalked.history) ∧
    ∃ source, IngestSource.create ['b'] (exampleReportKey "21".toList) none none = .ok source ∧
      .processing source ∈ exampleWalked.history := by
  have hContinuation : Requests exampleContinuation (continuationRequest none none ['t']) :=
    requests_continuation rfl rfl
  have hUndisturbed : ¬DisturbsPaging Plan.healthy :=
    fun ⟨request, _, h⟩ => not_disturbs_healthy request h
  have hFirst : (exampleFunction.handleAsync exampleRoot Plan.healthy 0
      { exampleListed with paging := Paging.single }).outcome ≠ .killed :=
    Outcome.ne_killed (by decide)
  have hSecond : (exampleFunction.handleAsync exampleContinuation Plan.healthy 0
      { exampleListed.invoked exampleRoot with paging := Paging.single }).outcome ≠ .killed :=
    Outcome.ne_killed (by decide)
  obtain ⟨hRespond, hSent⟩ := invoked_page exampleRoot_requests
    (exampleRespond_listing.linked none .first) hFirst
  have hSent : (exampleListed.invoked exampleRoot).invocations = [exampleContinuation] := hSent
  obtain ⟨_, hLast⟩ := invoked_page hContinuation (by rw [hRespond]; exact nofun) hSecond
  have hNone : exampleWalked.invocations = [exampleContinuation] := by
    rw [exampleWalked, hLast, hSent, hRespond]
    rfl
  have hRuns : (coverageHandling exampleFunction exampleRespond).Runs exampleRoot exampleWalked [] := by
    have hStart : (coverageHandling exampleFunction exampleRespond).Runs exampleRoot exampleListed
        ([] ++ [exampleRoot]) := .start ⟨rfl, rfl, rfl⟩
    have hOne : (coverageHandling exampleFunction exampleRespond).Runs exampleRoot
        (exampleListed.invoked exampleRoot) ([] ++ [exampleContinuation]) := by
      rw [← hSent]
      exact hStart.acknowledge ⟨Plan.healthy, Paging.single, ⟨hFirst, hUndisturbed⟩, rfl⟩
    have hTwo : (coverageHandling exampleFunction exampleRespond).Runs exampleRoot exampleWalked
        ([] ++ [] ++ (exampleWalked.invocations.drop
          (exampleListed.invoked exampleRoot).invocations.length)) :=
      hOne.acknowledge ⟨Plan.healthy, Paging.single, ⟨hSecond, hUndisturbed⟩, rfl⟩
    rw [hNone, hSent] at hTwo
    exact hTwo
  have hCovered :=
    (exampleFunction.backfill_covers exampleRoot_requests exampleRespond_listing hRuns).1 rfl
  exact ⟨hCovered _ (by simp [Listing.objects]) (by decide),
    hCovered _ (by simp [Listing.objects]) (by decide)⟩

end Example

end KiroIngest
