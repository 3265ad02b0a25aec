import KiroUsage.Ingest.Dispatch
import KiroUsage.Semantics.Delivery

/-! A backfill as a whole: invocations that send each other the pages of the raw
listing, delivered at least once and in any order. What every run of
`ProcessCsvAsync` keeps holds throughout, and what it establishes for its source
holds in the end for all selected reports. -/
namespace KiroIngest

open Text Storage Execution

/-- The raw listing is served in these pages, linked by tokens. -/
structure RawListing (respond : Option Str → ListObjectsV2Response) (listing : Listing Str Str) :
    Prop where
  served : Listing.Served (fun token => (respond token).served) none listing
  linked : ∀ token, Listing.Asked (fun token => (respond token).served) none token →
    (respond token).Linked

/-- Deliveries of backfill payloads. An attempt runs under any plan and any
paging of the analytics listings. -/
def backfillHandling (f : Function) (initial : World → Prop)
    (acknowledged : FaultPlan → Outcome Exn Unit → Prop) (other : World → World → Prop) :
    Handling World Json where
  initial := initial
  sent := World.invocations
  attempt := fun w payload after => ∃ plan paging,
    after = (f.handleAsync payload plan 0 { w with paging }).state
  acknowledged := fun w payload after => ∃ plan paging,
    acknowledged plan (f.handleAsync payload plan 0 { w with paging }).outcome ∧
      after = (f.handleAsync payload plan 0 { w with paging }).state
  other := other
  attempt_of_acknowledged := fun _ _ _ ⟨plan, paging, _, h⟩ => ⟨plan, paging, h⟩

section Walk

variable (f : Function) (fromDate toDate : Option DateOnly) (root : Json)
  (respond : Option Str → ListObjectsV2Response)

/-- The payload that makes an invocation ask for a page. -/
def pagePayload : Option Str → Json
  | none => root
  | some token => (continuationRequest fromDate toDate token).serialize

/-- Only payloads for pages that were announced have been sent. -/
def PagesOnly (w : World) : Prop :=
  ∀ payload ∈ w.invocations, ∃ token,
    Listing.Asked (fun token => (respond token).served) none (some token) ∧
      payload = (continuationRequest fromDate toDate token).serialize

/-- The page of a payload has been walked, and the next one asked for. -/
def PageHandled (done : World → IngestSource → Prop) (w : World) (payload : Json) : Prop :=
  ∀ token, payload = pagePayload fromDate toDate root token →
    (∀ source ∈ f.ingest.selected fromDate toDate (respond token).served.1, done w source) ∧
      ∀ next, (respond token).served.2 = some next →
        pagePayload fromDate toDate root (some next) ∈ w.invocations

variable {f fromDate toDate root respond} {listing : Listing Str Str}

theorem PagesOnly.page {w : World} (h : PagesOnly fromDate toDate respond w) {payload : Json}
    (hPayload : payload ∈ root :: w.invocations) :
    ∃ token, Listing.Asked (fun token => (respond token).served) none token ∧
      payload = pagePayload fromDate toDate root token := by
  rcases List.mem_cons.mp hPayload with rfl | hSent
  · exact ⟨none, .first, rfl⟩
  · obtain ⟨token, hAsked, rfl⟩ := h payload hSent
    exact ⟨some token, hAsked, rfl⟩

theorem requests_pagePayload
    (hRoot : Requests root ⟨some BackfillRequest.modeValue, fromDate, toDate, none⟩)
    (hListing : RawListing respond listing) {token : Option Str}
    (hAsked : Listing.Asked (fun token => (respond token).served) none token) :
    Requests (pagePayload fromDate toDate root token)
      ⟨some BackfillRequest.modeValue, fromDate, toDate, token⟩ := by
  cases hAsked with
  | first => exact hRoot
  | next h hNext =>
      exact requests_continuation hRoot.notReversed ((hListing.linked _ h).token_valid hNext)

/-- The payloads of different pages differ. -/
theorem pagePayload_injective
    (hRoot : Requests root ⟨some BackfillRequest.modeValue, fromDate, toDate, none⟩) :
    Function.Injective (pagePayload fromDate toDate root) := by
  have hRead (token : Option Str) :
      BackfillRequest.deserialize (pagePayload fromDate toDate root token) =
        .ok (some ⟨some BackfillRequest.modeValue, fromDate, toDate, token⟩) := by
    cases token with
    | none =>
        obtain ⟨_, _, _, _, hRead, _⟩ := hRoot
        exact hRead
    | some token => exact BackfillRequest.deserialize_serialize _
  intro token token' h
  have hBoth := (hRead token).symm.trans ((congrArg _ h).trans (hRead token'))
  simpa using hBoth

theorem selected_subset {s : IngestService} {keys keys' : List Str} (h : ∀ key ∈ keys, key ∈ keys')
    {source : IngestSource} (hm : source ∈ s.selected fromDate toDate keys) :
    source ∈ s.selected fromDate toDate keys' := by
  obtain ⟨key, hKey, hSelects, hMade⟩ := IngestService.mem_selected.mp hm
  exact IngestService.mem_selected.mpr ⟨key, h key hKey, hSelects, hMade⟩

variable {initial : World → Prop} {acknowledged : FaultPlan → Outcome Exn Unit → Prop}
  {other : World → World → Prop} {settled : Outcome Exn Unit → Prop} {invariant : World → Prop}
  {done : World → IngestSource → Prop}

/-- One invocation for an announced page sends announced pages only, and undoes
nothing. -/
theorem attempt_advances
    (hRoot : Requests root ⟨some BackfillRequest.modeValue, fromDate, toDate, none⟩)
    (hListing : RawListing respond listing)
    {plan : FaultPlan} (hAchieves : Achieves f.ingest plan
      (f.ingest.selected fromDate toDate listing.objects) settled invariant done)
    {w : World} (hRespond : w.rawListing = respond) (hPages : PagesOnly fromDate toDate respond w)
    (hInvariant : invariant w) {payload : Json} (hPayload : payload ∈ root :: w.invocations)
    (paging : Paging) :
    let after := (f.handleAsync payload plan 0 { w with paging }).state
    after.rawListing = respond ∧ PagesOnly fromDate toDate respond after ∧ invariant after ∧
      w.invocations <+: after.invocations ∧ ∀ source, done w source → done after source := by
  intro after
  obtain ⟨token, hAsked, rfl⟩ := hPages.page hPayload
  have hRequests := requests_pagePayload hRoot hListing hAsked
  obtain ⟨⟨sent, runs, hPage⟩, _, _⟩ := f.handleAsync_page hRequests plan 0 { w with paging }
    (by rw [show ({ w with paging } : World).rawListing = respond from hRespond]
        exact hListing.linked token hAsked)
  obtain ⟨hTrace, hSent, hSelected⟩ := hPage
  simp only [hRespond] at hSent hSelected
  have hFrame := hTrace.frame
  have hInvocations : after.invocations = w.invocations ++ sent := hFrame.invocations
  obtain ⟨hSentInvariant, hSentKept⟩ := hAchieves.same w (({ w with paging } : World).send sent)
    rfl rfl rfl rfl hInvariant
  obtain ⟨hAfter, _, hKept⟩ := hTrace.achieves hAchieves
    (fun run hm => selected_subset (hListing.served.page_subset hAsked) (hSelected run hm))
    hSentInvariant
  refine ⟨hFrame.rawListing.trans hRespond, ?_, hAfter, ⟨sent, hInvocations.symm⟩,
    fun source hSource => hKept source (hSentKept source hSource)⟩
  intro payload hm
  rw [hInvocations, List.mem_append] at hm
  rcases hm with hOld | hNew
  · exact hPages payload hOld
  · rcases hSent with rfl | rfl
    · cases hNew
    · obtain ⟨next, hNext, rfl⟩ := List.mem_map.mp hNew
      exact ⟨next, hAsked.next (Option.mem_toList.mp hNext), rfl⟩

/-- An invocation that is not repeated has handled its page: it has asked for the
next one, and each report that it selects is done. -/
theorem attempt_handles
    (hRoot : Requests root ⟨some BackfillRequest.modeValue, fromDate, toDate, none⟩)
    (hListing : RawListing respond listing)
    {plan : FaultPlan} (hAchieves : Achieves f.ingest plan
      (f.ingest.selected fromDate toDate listing.objects) settled invariant done)
    {w : World} (hRespond : w.rawListing = respond) (hPages : PagesOnly fromDate toDate respond w)
    (hInvariant : invariant w) {payload : Json} (hPayload : payload ∈ root :: w.invocations)
    (paging : Paging) :
    let run := f.handleAsync payload plan 0 { w with paging }
    ((run.outcome ≠ .killed ∧ ¬DisturbsPaging plan ∧ ∀ o, settled o) ∨
        (run.outcome = .returned () ∧ settled (.returned ()))) →
      PageHandled f fromDate toDate root respond done run.state payload := by
  rintro run hEnded token rfl
  obtain ⟨token', hAsked, hSame⟩ := hPages.page hPayload
  cases pagePayload_injective hRoot hSame
  have hRequests := requests_pagePayload hRoot hListing hAsked
  obtain ⟨_, hWhole, hReturned⟩ := f.handleAsync_page hRequests plan 0 { w with paging }
    (by rw [show ({ w with paging } : World).rawListing = respond from hRespond]
        exact hListing.linked token hAsked)
  have hRuns : ∃ runs, WholePage f.ingest fromDate toDate plan (respond token)
      { w with paging } runs run.state ∧ ∀ run ∈ runs, settled run.2 := by
    rw [← hRespond]
    rcases hEnded with ⟨hAlive, hUndisturbed, hAll⟩ | ⟨hOutcome, hSettled⟩
    · obtain ⟨runs, hRuns⟩ := hWhole hAlive hUndisturbed
      exact ⟨runs, hRuns, fun run _ => hAll run.2⟩
    · obtain ⟨runs, hRuns, hAll⟩ := hReturned hOutcome
      exact ⟨runs, hRuns, fun run hm => by rw [hAll run hm]; exact hSettled⟩
  obtain ⟨runs, hPage, hSettled⟩ := hRuns
  have hInvocations := hPage.invocations
  obtain ⟨hTrace, hSources⟩ := hPage
  have hStart := (hAchieves.same w (({ w with paging } : World).send
    (continuations fromDate toDate (respond token))) rfl rfl rfl rfl hInvariant).1
  have hSelected (run : SourceRun) (hm : run ∈ runs) :
      run.1 ∈ f.ingest.selected fromDate toDate listing.objects := by
    refine selected_subset (hListing.served.page_subset hAsked) ?_
    rw [← hSources]
    exact List.mem_map.mpr ⟨run, hm, rfl⟩
  obtain ⟨_, hDone, _⟩ := hTrace.achieves hAchieves hSelected hStart
  refine ⟨fun source hm => ?_, fun next hNext => ?_⟩
  · rw [← hSources] at hm
    obtain ⟨run, hRun, rfl⟩ := List.mem_map.mp hm
    exact hDone run hRun (hSettled run hRun)
  · rw [hInvocations]
    refine List.mem_append_right _ (List.mem_map.mpr ⟨next, ?_, rfl⟩)
    exact Option.mem_toList.mpr hNext

/-- The deliveries are reliable in the sense of the handling of messages. -/
theorem backfill_reliable
    (hRoot : Requests root ⟨some BackfillRequest.modeValue, fromDate, toDate, none⟩)
    (hListing : RawListing respond listing)
    (hAchieves : ∀ plan, Achieves f.ingest plan
      (f.ingest.selected fromDate toDate listing.objects) settled invariant done)
    (hInitial : ∀ w, initial w → w.invocations = [] ∧ w.rawListing = respond ∧ invariant w)
    (hAcknowledged : ∀ plan outcome, acknowledged plan outcome →
      (outcome ≠ .killed ∧ ¬DisturbsPaging plan ∧ ∀ o, settled o) ∨
        (outcome = .returned () ∧ settled (.returned ())))
    (hOther : ∀ w after, other w after → invariant w → after.invocations = w.invocations ∧
      after.rawListing = w.rawListing ∧ invariant after ∧
        ∀ source, done w source → done after source) :
    (backfillHandling f initial acknowledged other).Reliable root
      (fun w => w.rawListing = respond ∧ PagesOnly fromDate toDate respond w ∧ invariant w)
      (PageHandled f fromDate toDate root respond done) where
  initial := by
    intro w h
    obtain ⟨hInvocations, hRespond, hInvariant⟩ := hInitial w h
    refine ⟨⟨hRespond, fun payload hm => ?_, hInvariant⟩, hInvocations⟩
    rw [hInvocations] at hm
    cases hm
  attempt := by
    rintro w payload after ⟨hRespond, hPages, hInvariant⟩ hPayload ⟨plan, paging, rfl⟩
    obtain ⟨hAfterRespond, hAfterPages, hAfter, hGrows, hKept⟩ :=
      attempt_advances hRoot hListing (hAchieves plan) hRespond hPages hInvariant hPayload paging
    refine ⟨⟨hAfterRespond, hAfterPages, hAfter⟩, hGrows, fun other hHandled token hToken => ?_⟩
    obtain ⟨hDone, hNext⟩ := hHandled token hToken
    exact ⟨fun source hm => hKept source (hDone source hm), fun next h => hGrows.subset (hNext next h)⟩
  acknowledged := by
    rintro w payload after ⟨hRespond, hPages, hInvariant⟩ hPayload ⟨plan, paging, hAck, rfl⟩
    exact attempt_handles hRoot hListing (hAchieves plan) hRespond hPages hInvariant hPayload paging
      (hAcknowledged _ _ hAck)
  other := by
    rintro w after ⟨hRespond, hPages, hInvariant⟩ hStep
    obtain ⟨hInvocations, hListing', hAfter, hKept⟩ := hOther w after hStep hInvariant
    refine ⟨hInvocations, ⟨⟨hListing'.trans hRespond, ?_, hAfter⟩, ?_, ?_⟩⟩
    · rwa [PagesOnly, hInvocations]
    · exact ⟨[], (List.append_nil _).trans hInvocations.symm⟩
    · intro payload hHandled token hToken
      obtain ⟨hDone, hNext⟩ := hHandled token hToken
      refine ⟨fun source hm => hKept source (hDone source hm), fun next h => ?_⟩
      rw [hInvocations]
      exact hNext next h

/-- In every run of the deliveries the invariant holds, only announced pages
have been sent, and once nothing is pending every selected report is done. -/
theorem backfill_achieves (hListing : RawListing respond listing)
    (hReliable : (backfillHandling f initial acknowledged other).Reliable root
      (fun w => w.rawListing = respond ∧ PagesOnly fromDate toDate respond w ∧ invariant w)
      (PageHandled f fromDate toDate root respond done))
    {w : World} {pending : List Json}
    (hRuns : (backfillHandling f initial acknowledged other).Runs root w pending) :
    invariant w ∧ PagesOnly fromDate toDate respond w ∧
      (pending = [] → ∀ source ∈ f.ingest.selected fromDate toDate listing.objects,
        done w source) := by
  obtain ⟨⟨_, hPages, hInvariant⟩, _, _⟩ := hReliable.accounted hRuns
  refine ⟨hInvariant, hPages, ?_⟩
  rintro rfl source hSource
  have hHandled := hReliable.handled hRuns
  obtain ⟨key, hObject, hSelects, hMade⟩ := IngestService.mem_selected.mp hSource
  obtain ⟨token, hSent, hPage⟩ := hListing.served.covered
    (fun token => pagePayload fromDate toDate root token ∈ root :: w.invocations)
    (List.mem_cons_self) (fun token next hSent hNext =>
      List.mem_cons_of_mem _ ((hHandled _ hSent token rfl).2 next hNext)) key hObject
  exact (hHandled _ hSent token rfl).1 source
    (IngestService.mem_selected.mpr ⟨key, hPage, hSelects, hMade⟩)

end Walk

end KiroIngest
