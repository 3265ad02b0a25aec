import KiroUsage.Ingest.Atomicity
import KiroUsage.Ingest.DateRange

/-! Rebuilding the fact tables. Invocations of a backfill may fail, leave torn outputs
behind and be delivered again in any order. Once all of them have returned, the tables
are what the reports and the Target List say, each report counted once, and nothing is
left of what happened in between. -/
namespace KiroIngest

open Text Storage Execution ReportTransform

/-- No source publishes under a name of another one of them. -/
def Apart (sources : List IngestSource) : Prop :=
  ∀ source ∈ sources, ∀ other ∈ sources, source ≠ other → NamesApart source other

instance (sources : List IngestSource) : Decidable (Apart sources) :=
  inferInstanceAs (Decidable (∀ source ∈ sources, ∀ other ∈ sources, source ≠ other →
    NamesApart source other))

/-- The fact objects that the report of a source stands for. -/
def IngestService.reported (s : IngestService) (w : World) (source : IngestSource) :
    List (Str × ObjectBody) :=
  match s.transformed source w with
  | .ok result => prepareOutputs source result
  | .error _ => []

/-- The report of the source was accepted, and the objects with a name of the source are
those that it stands for. -/
def IngestService.Rebuilt (s : IngestService) (start w : World) (source : IngestSource) : Prop :=
  (∃ result, s.transformed source start = .ok result) ∧
    ∀ key, owned source key = true → w.analytics.lookup key = written (s.reported start source) key

/-- The reports and the Target List are those of the start, and so are the fact objects
without a name of the sources. -/
structure Rebuilding (sources : List IngestSource) (start w : World) : Prop where
  raw : w.raw = start.raw
  targetListParameter : w.targetListParameter = start.targetListParameter
  others : KeepsOthers sources start w

section Runs

variable {s : IngestService} {plan : FaultPlan} {sources : List IngestSource}
  {start before w after : World} {done : List SourceRun} {source : IngestSource}

theorem reported_of_ok {result : TransformResult} (h : s.transformed source w = .ok result) :
    s.reported w source = prepareOutputs source result := by
  unfold IngestService.reported
  rw [h]

/-- What one run leaves to another source. -/
theorem IngestService.Rebuilt.run_other (h : s.Rebuilt start w source) (hApart : Apart sources)
    (hSource : source ∈ sources) {other : IngestSource} (hOther : other ∈ sources)
    (hne : source ≠ other) {outcome : Outcome Exn Unit} (hEffect : Effect s plan other w outcome after) :
    s.Rebuilt start after source := by
  obtain ⟨result, hResult⟩ := h.1
  refine ⟨h.1, ?_⟩
  have hShown := h.2
  rw [reported_of_ok hResult] at hShown ⊢
  exact (hApart other hOther source hSource hne.symm).outputs_kept hEffect hShown

/-- A run that returns rebuilds its source. -/
theorem rebuilt_of_returned (hRebuilding : Rebuilding sources start w)
    (hBackfill : source.sequencer = none) {outcome : Outcome Exn Unit}
    (hEffect : Effect s plan source w outcome after) (hReturned : outcome = .returned ()) :
    s.Rebuilt start after source := by
  obtain ⟨result, hResult, hShown⟩ := hEffect.published_of_returned hReturned hBackfill
  rw [transformed_congr hRebuilding.raw hRebuilding.targetListParameter] at hResult
  exact ⟨⟨result, hResult⟩, fun key hOwned => by rw [reported_of_ok hResult, hShown key hOwned]⟩

theorem Rebuilding.run (h : Rebuilding sources start w) (hSource : source ∈ sources)
    {outcome : Outcome Exn Unit} (hFrame : Frame w after)
    (hEffect : Effect s plan source w outcome after) : Rebuilding sources start after where
  raw := hFrame.raw.trans h.raw
  targetListParameter := hFrame.targetListParameter.trans h.targetListParameter
  others := by
    intro key hFact hOther
    rw [hEffect.lookup_other (hOther source hSource) (ne_stateKey_of_isFactKey hFact source)]
    exact h.others key hFact hOther

/-- Other fields than the facts and what they come from do not matter. -/
theorem Rebuilding.congr (h : Rebuilding sources start w) (hAnalytics : after.analytics = w.analytics)
    (hRaw : after.raw = w.raw) (hTarget : after.targetListParameter = w.targetListParameter) :
    Rebuilding sources start after where
  raw := hRaw.trans h.raw
  targetListParameter := hTarget.trans h.targetListParameter
  others := by
    intro key hFact hOther
    rw [hAnalytics]
    exact h.others key hFact hOther

theorem IngestService.Rebuilt.congr (h : s.Rebuilt start w source)
    (hAnalytics : after.analytics = w.analytics) : s.Rebuilt start after source :=
  ⟨h.1, fun key hOwned => by rw [hAnalytics]; exact h.2 key hOwned⟩

/-- What a trace does to a source. Without a run of its own it stays as it is, and if all
runs return it is rebuilt. -/
theorem Trace.rebuilds (hApart : Apart sources)
    (hBackfill : ∀ source ∈ sources, source.sequencer = none) (h : Trace s plan before done w)
    (hSources : ∀ run ∈ done, run.1 ∈ sources) (hStart : Rebuilding sources start before)
    (hSource : source ∈ sources) :
    Rebuilding sources start w ∧
      (source ∉ done.map Prod.fst → s.Rebuilt start before source → s.Rebuilt start w source) ∧
      ((∀ run ∈ done, run.2 = .returned ()) → source ∈ done.map Prod.fst →
        s.Rebuilt start w source) := by
  induction h with
  | begin hAside =>
      exact ⟨hStart.congr hAside.analytics hAside.raw hAside.targetListParameter,
        fun _ hRebuilt => hRebuilt.congr hAside.analytics, fun _ => nofun⟩
  | @run done w after other outcome _ hFrame hEffect ih =>
      obtain ⟨hRebuilding, hKept, hDone⟩ := ih fun run hm => hSources run (List.mem_append_left _ hm)
      have hOther : other ∈ sources := hSources (other, outcome) (by simp)
      refine ⟨hRebuilding.run hOther hFrame hEffect, fun hNot hRebuilt => ?_, fun hAll hm => ?_⟩
      · simp only [List.map_append, List.map_cons, List.map_nil, List.mem_append, List.mem_singleton,
          not_or] at hNot
        exact (hKept hNot.1 hRebuilt).run_other hApart hSource hOther hNot.2 hEffect
      · by_cases hSame : source = other
        · subst hSame
          exact rebuilt_of_returned hRebuilding (hBackfill source hSource) hEffect
            (hAll (source, outcome) (by simp))
        · have hEarlier : source ∈ done.map Prod.fst := by
            simpa [hSame] using hm
          exact (hDone (fun run hRun => hAll run (List.mem_append_left _ hRun)) hEarlier).run_other
            hApart hSource hOther hSame hEffect
  | aside _ hAside ih =>
      obtain ⟨hRebuilding, hKept, hDone⟩ := ih hSources
      exact ⟨hRebuilding.congr hAside.analytics hAside.raw hAside.targetListParameter,
        fun hNot hRebuilt => (hKept hNot hRebuilt).congr hAside.analytics,
        fun hAll hm => (hDone hAll hm).congr hAside.analytics⟩

end Runs

/-- The deliveries of one backfill. A payload is delivered once an invocation with it
returns. In between anything may happen but to reports, facts and the listing. -/
def rebuildingHandling (f : Function) (start : World) : Handling World Json :=
  backfillHandling f (· = start) (fun _ outcome => outcome = .returned ()) fun w after =>
    after.raw = w.raw ∧ after.rawListing = w.rawListing ∧ after.invocations = w.invocations ∧
      after.targetListParameter = w.targetListParameter ∧
      ∀ key, isFactKey key = true → after.analytics.lookup key = w.analytics.lookup key

/-- The payload is for a page that selects the source. -/
def PageSelects (f : Function) (fromDate toDate : Option DateOnly) (root : Json)
    (respond : Option Str → ListObjectsV2Response) (payload : Json) (source : IngestSource) : Prop :=
  ∃ token, payload = pagePayload fromDate toDate root token ∧
    source ∈ f.ingest.selected fromDate toDate (respond token).served.1

section Deliveries

variable {f : Function} {fromDate toDate : Option DateOnly} {root : Json} {start w : World}
  {listing : Listing Str Str}

theorem rebuilding_achieves (s : IngestService) (plan : FaultPlan) (sources : List IngestSource)
    (start : World) : Achieves s plan sources (· = .returned ()) (Rebuilding sources start)
      (fun _ _ => True) where
  same := fun _ _ hAnalytics _ hRaw hTarget h => ⟨h.congr hAnalytics hRaw hTarget, fun _ _ => trivial⟩
  run := fun _ _ _ _ hSource hFrame hEffect h =>
    ⟨h.run hSource hFrame hEffect, fun _ => trivial, fun _ _ => trivial⟩

/-- What lies between the invocations does not matter. -/
theorem Rebuilding.other {sources : List IngestSource} {after : World}
    (h : Rebuilding sources start w) (hRaw : after.raw = w.raw)
    (hTarget : after.targetListParameter = w.targetListParameter)
    (hFacts : ∀ key, isFactKey key = true → after.analytics.lookup key = w.analytics.lookup key) :
    Rebuilding sources start after where
  raw := hRaw.trans h.raw
  targetListParameter := hTarget.trans h.targetListParameter
  others := fun key hFact hOther => (hFacts key hFact).trans (h.others key hFact hOther)

theorem selected_backfill {keys : List Str} :
    ∀ source ∈ f.ingest.selected fromDate toDate keys, source.sequencer = none := by
  intro source hSource
  obtain ⟨key, _, _, hMade⟩ := IngestService.mem_selected.mp hSource
  exact f.ingest.sequencer_of_create hMade

variable (hRoot : Requests root ⟨some BackfillRequest.modeValue, fromDate, toDate, none⟩)
  (hListing : RawListing start.rawListing listing)

include hRoot hListing

theorem rebuilding_reliable (hInvocations : start.invocations = []) :
    (rebuildingHandling f start).Reliable root
      (fun w => w.rawListing = start.rawListing ∧ PagesOnly fromDate toDate start.rawListing w ∧
        Rebuilding (f.ingest.selected fromDate toDate listing.objects) start w)
      (PageHandled f fromDate toDate root start.rawListing fun _ _ => True) := by
  apply backfill_reliable (f := f) hRoot hListing
    (fun plan => rebuilding_achieves f.ingest plan _ start)
  · rintro w rfl
    exact ⟨hInvocations, rfl, rfl, rfl, fun _ _ _ => rfl⟩
  · exact fun plan outcome hReturned => Or.inr ⟨hReturned, rfl⟩
  · rintro w after ⟨hRaw, hRespond, hSent, hTarget, hFacts⟩ hRebuilding
    exact ⟨hSent, hRespond, hRebuilding.other hRaw hTarget hFacts, fun _ _ => trivial⟩

variable (hApart : Apart (f.ingest.selected fromDate toDate listing.objects))

include hApart

/-- An attempt disturbs the sources of its own page only, and if it returns these are
rebuilt. -/
theorem attempt_rebuilds (hRespond : w.rawListing = start.rawListing)
    (hRebuilding : Rebuilding (f.ingest.selected fromDate toDate listing.objects) start w)
    {token : Option Str}
    (hAsked : Listing.Asked (fun token => (start.rawListing token).served) none token)
    (plan : FaultPlan) (paging : Paging) {source : IngestSource}
    (hSource : source ∈ f.ingest.selected fromDate toDate listing.objects) :
    let payload := pagePayload fromDate toDate root token
    let run := f.handleAsync payload plan 0 { w with paging }
    (f.ingest.Rebuilt start w source → f.ingest.Rebuilt start run.state source ∨
      source ∈ f.ingest.selected fromDate toDate (start.rawListing token).served.1) ∧
    (run.outcome = .returned () →
      source ∈ f.ingest.selected fromDate toDate (start.rawListing token).served.1 →
      f.ingest.Rebuilt start run.state source) := by
  intro payload run
  have hRequests := requests_pagePayload hRoot hListing hAsked
  obtain ⟨⟨sent, runs, hPage⟩, _, hReturned⟩ := f.handleAsync_page hRequests plan 0 { w with paging }
    (by rw [show ({ w with paging } : World).rawListing = start.rawListing from hRespond]
        exact hListing.linked token hAsked)
  have hPart : PageRun f.ingest fromDate toDate plan (start.rawListing token) { w with paging } sent runs
      run.state := by
    rw [← hRespond]
    exact hPage
  have hSubset {other : IngestSource}
      (hm : other ∈ f.ingest.selected fromDate toDate (start.rawListing token).served.1) :
      other ∈ f.ingest.selected fromDate toDate listing.objects :=
    selected_subset (hListing.served.page_subset hAsked) hm
  have hSame (sent : List Json) : Rebuilding (f.ingest.selected fromDate toDate listing.objects) start
      (({ w with paging } : World).send sent) := hRebuilding.congr rfl rfl rfl
  constructor
  · intro hRebuilt
    by_cases hm : source ∈ runs.map Prod.fst
    · obtain ⟨run, hRun, rfl⟩ := List.mem_map.mp hm
      exact Or.inr (hPart.selected run hRun)
    · obtain ⟨_, hKept, _⟩ := hPart.trace.rebuilds hApart selected_backfill
        (fun run hRun => hSubset (hPart.selected run hRun)) (hSame sent) hSource
      exact Or.inl (hKept hm (hRebuilt.congr rfl))
  · intro hOutcome hm
    obtain ⟨done, hWhole, hAll⟩ : ∃ done, WholePage f.ingest fromDate toDate plan
        (start.rawListing token) { w with paging } done run.state ∧
          ∀ run ∈ done, run.2 = .returned () := by
      rw [← hRespond]
      exact hReturned hOutcome
    have hSources (run : SourceRun) (hRun : run ∈ done) :
        run.1 ∈ f.ingest.selected fromDate toDate listing.objects := by
      apply hSubset
      rw [← hWhole.sources]
      exact List.mem_map.mpr ⟨run, hRun, rfl⟩
    obtain ⟨_, _, hDone⟩ := hWhole.trace.rebuilds hApart selected_backfill hSources (hSame _) hSource
    exact hDone hAll (hWhole.sources ▸ hm)

/-- Returning invocations rebuild what failing ones have disturbed. -/
theorem rebuilding_restoring :
    (rebuildingHandling f start).Restoring root
      (fun w => w.rawListing = start.rawListing ∧ PagesOnly fromDate toDate start.rawListing w ∧
        Rebuilding (f.ingest.selected fromDate toDate listing.objects) start w)
      (fun payload source => PageSelects f fromDate toDate root start.rawListing payload source ∧
        source ∈ f.ingest.selected fromDate toDate listing.objects)
      (fun w source => source ∈ f.ingest.selected fromDate toDate listing.objects →
        f.ingest.Rebuilt start w source) where
  attempt := by
    rintro w payload after ⟨hRespond, hPages, hRebuilding⟩ hPayload ⟨plan, paging, rfl⟩ source hDone
    by_cases hSource : source ∈ f.ingest.selected fromDate toDate listing.objects
    · obtain ⟨token, hAsked, rfl⟩ := hPages.page hPayload
      rcases (attempt_rebuilds hRoot hListing hApart hRespond hRebuilding hAsked plan paging
        hSource).1 (hDone hSource) with hKept | hSelected
      · exact Or.inl fun _ => hKept
      · exact Or.inr ⟨⟨token, rfl, hSelected⟩, hSource⟩
    · exact Or.inl fun h => absurd h hSource
  acknowledged := by
    rintro w payload after ⟨hRespond, hPages, hRebuilding⟩ hPayload ⟨plan, paging, hReturned, rfl⟩
      source ⟨⟨token, rfl, hSelected⟩, hSource⟩ _
    obtain ⟨token', hAsked, hSame⟩ := hPages.page hPayload
    cases pagePayload_injective hRoot hSame
    exact (attempt_rebuilds hRoot hListing hApart hRespond hRebuilding hAsked plan paging
      hSource).2 hReturned hSelected
  other := by
    rintro w after _ ⟨_, _, _, _, hFacts⟩ source hDone hSource
    obtain ⟨hAccepted, hShown⟩ := hDone hSource
    refine ⟨hAccepted, fun key hOwned => ?_⟩
    rw [hFacts key (isFactKey_of_owned hOwned)]
    exact hShown key hOwned

/-- Once no invocation is pending, every selected report is rebuilt, and the other facts
are those of the start. -/
theorem all_rebuilt (hInvocations : start.invocations = [])
    (hRuns : (rebuildingHandling f start).Runs root w []) :
    (∀ source ∈ f.ingest.selected fromDate toDate listing.objects, f.ingest.Rebuilt start w source) ∧
      KeepsOthers (f.ingest.selected fromDate toDate listing.objects) start w := by
  have hReliable := rebuilding_reliable (f := f) hRoot hListing hInvocations
  have hRestoring := rebuilding_restoring (f := f) hRoot hListing hApart
  obtain ⟨⟨_, _, hRebuilding⟩, _, _⟩ := hReliable.accounted hRuns
  refine ⟨fun source hSource => ?_, hRebuilding.others⟩
  obtain ⟨key, hKey, hSelects, hMade⟩ := IngestService.mem_selected.mp hSource
  obtain ⟨token, hSent, hPage⟩ := hListing.served.covered
    (fun token => pagePayload fromDate toDate root token ∈ root :: w.invocations)
    List.mem_cons_self (fun token next hSent hNext =>
      List.mem_cons_of_mem _ ((hReliable.handled hRuns _ hSent token rfl).2 next hNext)) key hKey
  exact hRestoring.restored hReliable hRuns hSent
    ⟨⟨token, rfl, IngestService.mem_selected.mpr ⟨key, hPage, hSelects, hMade⟩⟩, hSource⟩ hSource

end Deliveries

/-- All fact objects. -/
def World.facts (w : World) : List (Str × ObjectBody) :=
  w.analytics.select isFactKey

/-- The fact objects without a name of the sources. -/
def World.unowned (w : World) (sources : List IngestSource) : List (Str × ObjectBody) :=
  w.facts.filter fun output => sources.all fun source => !owned source output.1

/-- What a query reads of some objects: the rows of those in the daily usage table, with
the partition columns from their paths. -/
def usageRowsOf (outputs : List (Str × ObjectBody)) : List ((Str × Str) × UsageDailyRecord) :=
  (outputs.filter fun output => (usageDailyPrefix ++ ['/']).isPrefixOf output.1).flatMap
    fun output => output.2.usageRows.map fun row => (pathColumns output.1, row)

/-- The rows that the report of a source has for the daily usage table. -/
def IngestService.reportedUsage (s : IngestService) (w : World) (source : IngestSource) :
    List ((Str × Str) × UsageDailyRecord) :=
  match s.transformed source w with
  | .ok result => result.partitions.flatMap fun p => p.usageDaily.map fun row => (p.path, row)
  | .error _ => []

section Tables

variable {s : IngestService} {sources : List IngestSource} {start w : World} {source : IngestSource}

theorem mem_facts {output : Str × ObjectBody} :
    output ∈ w.facts ↔ isFactKey output.1 = true ∧ w.analytics.lookup output.1 = some output.2 :=
  Bucket.mem_select

theorem facts_keys_nodup (w : World) : (w.facts.map Prod.fst).Nodup :=
  w.analytics.select_keys_nodup _

theorem mem_unowned {output : Str × ObjectBody} : output ∈ w.unowned sources ↔
    output ∈ w.facts ∧ ∀ source ∈ sources, owned source output.1 = false := by
  simp only [World.unowned, List.mem_filter, List.all_eq_true, Bool.not_eq_true']

theorem owned_of_reported {output : Str × ObjectBody} (h : output ∈ s.reported w source) :
    owned source output.1 = true := by
  unfold IngestService.reported at h
  split at h
  · exact owned_of_mem_prepareOutputs _ (List.mem_map_of_mem h)
  · cases h

theorem reported_keys_nodup (s : IngestService) (w : World) (source : IngestSource) :
    ((s.reported w source).map Prod.fst).Nodup := by
  cases hResult : s.transformed source w with
  | ok result =>
      rw [reported_of_ok hResult]
      exact transformed_nodup hResult
  | error error =>
      unfold IngestService.reported
      rw [hResult]
      exact List.nodup_nil

/-- What the report of one source stands for has no name of the other. -/
theorem not_mem_reported {other : IngestSource} (h : NamesApart other source) {key : Str}
    (hOwned : owned source key = true) {body : ObjectBody} : (key, body) ∉ s.reported w other := by
  unfold IngestService.reported
  split
  · exact h.not_mem_outputs hOwned
  · exact List.not_mem_nil

/-- The reports of different sources stand for different objects. -/
theorem reports_nodup (hNodup : sources.Nodup) (hApart : Apart sources) :
    (sources.flatMap (s.reported w)).Nodup := by
  rw [List.nodup_flatMap]
  refine ⟨fun source _ => (reported_keys_nodup s w source).of_map, hNodup.imp_of_mem ?_⟩
  intro source other hSource hOther hne output hOutput hAgain
  exact not_mem_reported (hApart source hSource other hOther hne) (owned_of_reported hAgain) hOutput

/-- Rebuilt, the fact objects are those of the reports, each once, and those that none of
the sources owns. -/
theorem facts_perm (hNodup : sources.Nodup) (hApart : Apart sources)
    (hRebuilt : ∀ source ∈ sources, s.Rebuilt start w source) (hOthers : KeepsOthers sources start w) :
    w.facts.Perm (start.unowned sources ++ sources.flatMap (s.reported start)) := by
  have hDisjoint : List.Disjoint (start.unowned sources) (sources.flatMap (s.reported start)) := by
    intro output hUnowned hReported
    obtain ⟨source, hSource, hOutput⟩ := List.mem_flatMap.mp hReported
    have hNot := (mem_unowned.mp hUnowned).2 source hSource
    rw [owned_of_reported hOutput] at hNot
    cases hNot
  have hRight : (start.unowned sources ++ sources.flatMap (s.reported start)).Nodup :=
    ((facts_keys_nodup start).of_map.filter _).append (reports_nodup hNodup hApart) hDisjoint
  rw [List.perm_ext_iff_of_nodup (facts_keys_nodup w).of_map hRight]
  rintro ⟨key, body⟩
  rw [mem_facts, List.mem_append, mem_unowned, mem_facts, List.mem_flatMap]
  by_cases hOwner : ∃ source ∈ sources, owned source key = true
  · obtain ⟨source, hSource, hOwned⟩ := hOwner
    rw [(hRebuilt source hSource).2 key hOwned]
    constructor
    · exact fun ⟨_, hBody⟩ => Or.inr ⟨source, hSource, mem_of_written hBody⟩
    · rintro (⟨_, hNot⟩ | ⟨other, hOther, hOutput⟩)
      · rw [hNot source hSource] at hOwned
        cases hOwned
      · obtain rfl : other = source := by
          by_contra hne
          exact not_mem_reported (hApart other hOther source hSource hne) hOwned hOutput
        exact ⟨isFactKey_of_owned hOwned, written_of_mem (reported_keys_nodup s start other) hOutput⟩
  · have hNone : ∀ source ∈ sources, owned source key = false :=
      fun source hSource => by simpa using fun hOwned => hOwner ⟨source, hSource, hOwned⟩
    constructor
    · rintro ⟨hFact, hBody⟩
      exact Or.inl ⟨⟨hFact, (hOthers key hFact hNone).symm.trans hBody⟩, hNone⟩
    · rintro (⟨⟨hFact, hBody⟩, _⟩ | ⟨source, hSource, hOutput⟩)
      · exact ⟨hFact, (hOthers key hFact hNone).trans hBody⟩
      · exact (hOwner ⟨source, hSource, owned_of_reported hOutput⟩).elim

theorem usageRowsOf_append (first second : List (Str × ObjectBody)) :
    usageRowsOf (first ++ second) = usageRowsOf first ++ usageRowsOf second := by
  simp [usageRowsOf]

theorem usageRowsOf_perm {first second : List (Str × ObjectBody)} (h : first.Perm second) :
    (usageRowsOf first).Perm (usageRowsOf second) :=
  (h.filter _).flatMap_right _

theorem usageRowsOf_flatMap (objects : IngestSource → List (Str × ObjectBody)) :
    usageRowsOf (sources.flatMap objects) =
      sources.flatMap fun source => usageRowsOf (objects source) := by
  simp only [usageRowsOf, List.filter_flatMap, List.flatMap_assoc]

/-- The whole table is read from the fact objects. -/
theorem usageRowsOf_facts (w : World) :
    usageRowsOf w.facts = w.usageDailyTable.map fun row => (pathColumns row.1, row.2) := by
  have hFilter : (w.analytics.entries.filter fun entry => isFactKey entry.1).filter
      (fun entry => (usageDailyPrefix ++ ['/']).isPrefixOf entry.1) =
      w.analytics.entries.filter fun entry => (usageDailyPrefix ++ ['/']).isPrefixOf entry.1 := by
    rw [List.filter_filter]
    apply List.filter_congr
    intro entry _
    cases hPrefix : (usageDailyPrefix ++ ['/']).isPrefixOf entry.1 with
    | false => rfl
    | true => simp [isFactKey, hPrefix]
  simp only [usageRowsOf, World.facts, Bucket.select, World.usageDailyTable, List.filter_map,
    List.flatMap_map, List.map_flatMap, List.map_map]
  rw [← hFilter]
  rfl

/-- One partition has one object in the table. -/
theorem usageRowsOf_partition {p : FactPartition}
    (hPath : pathColumns (outputKey usageDailyPrefix p.date p.clientType source.bucket source.key) =
      p.path) :
    usageRowsOf (partitionOutputs source p) = p.usageDaily.map fun row => (p.path, row) := by
  have hUsage : (usageDailyPrefix ++ ['/']).isPrefixOf
      (outputKey usageDailyPrefix p.date p.clientType source.bucket source.key) = true := by
    rw [List.isPrefixOf_iff_prefix]
    exact ⟨"date=".toList ++ p.date ++ "/client_type=".toList ++ p.clientType ++
      '/' :: outputFileName source.bucket source.key, by simp [outputKey]⟩
  have hModel : (usageDailyPrefix ++ ['/']).isPrefixOf
      (outputKey modelMessagesPrefix p.date p.clientType source.bucket source.key) = false := rfl
  unfold usageRowsOf partitionOutputs
  split_ifs
  · simp [hUsage, hModel, hPath, ObjectBody.usageRows]
  · simp [hUsage, hPath, ObjectBody.usageRows]

theorem usageRowsOf_reported (s : IngestService) (w : World) (source : IngestSource) :
    usageRowsOf (s.reported w source) = s.reportedUsage w source := by
  cases hResult : s.transformed source w with
  | error error =>
      unfold IngestService.reported IngestService.reportedUsage
      rw [hResult]
      rfl
  | ok result =>
      rw [reported_of_ok hResult, IngestService.reportedUsage, hResult]
      dsimp only
      obtain ⟨_, _, _, _, hTransform⟩ := transformed_eq_ok hResult
      obtain ⟨acc, hInv, hPartitions⟩ := transform_inv hTransform
      simp only [usageRowsOf, prepareOutputs, List.filter_flatMap, List.flatMap_assoc]
      apply List.flatMap_congr
      intro p hp
      have hType := slash_not_mem_clientType (hInv.clientTypes p (hPartitions ▸ hp))
      exact usageRowsOf_partition (pathColumns_outputKey (partition_date_length hTransform hp) hType _ _)

/-- A listing without duplicates selects no source twice. -/
theorem selected_nodup (s : IngestService) (fromDate toDate : Option DateOnly) {keys : List Str}
    (hKeys : keys.Nodup) : (s.selected fromDate toDate keys).Nodup := by
  refine (hKeys.filter _).filterMap fun key key' source hKey hKey' => ?_
  have hCreated {key : Str}
      (h : source ∈ (IngestSource.create s.rawBucket key none none).toOption) : source.key = key := by
    have hMade := Fallible.eq_ok_of_toOption h
    unfold IngestSource.create at hMade
    split_ifs at hMade
    cases hMade
    rfl
  rw [← hCreated hKey, ← hCreated hKey']

end Tables

/-- A backfill rebuilds the tables if no report within the bounds is published under a name
of another one. However often its invocations failed and were delivered again before they
returned, every report within the bounds was accepted, the fact objects are those that the
reports stand for, each once, besides those with other names from before, and so are the
rows that a query of the daily usage table reads. -/
theorem Function.backfill_rebuilds (f : Function) {fromDate toDate : Option DateOnly} {root : Json}
    {listing : Listing Str Str} {start w : World}
    (hRoot : Requests root ⟨some BackfillRequest.modeValue, fromDate, toDate, none⟩)
    (hListing : RawListing start.rawListing listing) (hKeys : listing.objects.Nodup)
    (hInvocations : start.invocations = [])
    (hApart : Apart (f.ingest.selected fromDate toDate listing.objects))
    (hRuns : (rebuildingHandling f start).Runs root w []) :
    let sources := f.ingest.selected fromDate toDate listing.objects
    (∀ source ∈ sources, ∃ result, f.ingest.transformed source start = .ok result) ∧
      w.facts.Perm (start.unowned sources ++ sources.flatMap (f.ingest.reported start)) ∧
      (w.usageDailyTable.map fun row => (pathColumns row.1, row.2)).Perm
        (usageRowsOf (start.unowned sources) ++
          sources.flatMap (f.ingest.reportedUsage start)) := by
  intro sources
  obtain ⟨hRebuilt, hOthers⟩ := all_rebuilt hRoot hListing hApart hInvocations hRuns
  have hFacts : w.facts.Perm (start.unowned sources ++ sources.flatMap (f.ingest.reported start)) :=
    facts_perm (selected_nodup f.ingest fromDate toDate hKeys) hApart hRebuilt hOthers
  refine ⟨fun source hSource => (hRebuilt source hSource).1, hFacts, ?_⟩
  have hRows := usageRowsOf_perm hFacts
  rw [usageRowsOf_facts, usageRowsOf_append, usageRowsOf_flatMap] at hRows
  simpa only [usageRowsOf_reported] using hRows

section Example

theorem exampleNextDate_isSome : (DateOnly.ofNats 2026 6 21).isSome = true := by
  decide

def exampleNextDate : DateOnly := (DateOnly.ofNats 2026 6 21).get exampleNextDate_isSome

/-- A backfill of two days. -/
def exampleTwoDays : Json :=
  (BackfillRequest.mk (some BackfillRequest.modeValue) (some exampleDate) (some exampleNextDate)
    none).serialize

theorem exampleTwoDays_requests : Requests exampleTwoDays
    ⟨some BackfillRequest.modeValue, some exampleDate, some exampleNextDate, none⟩ :=
  ⟨_, _, rfl, rfl, BackfillRequest.deserialize_serialize _,
    BackfillRequest.validate_continuation (by decide) (fun _ => nofun)⟩

/-- Two reports of one base name, and an object with the legacy name that they share. -/
def exampleNamesakes : World :=
  { exampleWorld [⟨['b'], exampleReportKey "20".toList, ['1'], exampleReport ['a']⟩,
      ⟨['b'], exampleReportKey "21".toList, ['1'], exampleReport ['a']⟩]
      (AList.insert (exampleLegacyKey usageDailyPrefix) (.bytes []) ∅) with
    rawListing := fun _ => ⟨some exampleKeys, none, none⟩ }

theorem exampleNamesakes_listing : RawListing exampleNamesakes.rawListing exampleListing :=
  ⟨.last rfl, fun _ _ => nofun⟩

theorem exampleNamesakes_apart :
    Apart (exampleService.selected (some exampleDate) (some exampleNextDate) exampleKeys) := by
  decide +kernel

/-- An attempt in which the legacy object cannot be deleted. -/
def exampleTorn : World :=
  (exampleFunction.handleAsync exampleTwoDays (failOnly (.deleteObject (exampleLegacyKey usageDailyPrefix)))
    0 { exampleNamesakes with paging := Paging.single }).state

theorem exampleTorn_sent : exampleTorn.invocations = [] :=
  List.isEmpty_iff.mp (by decide +kernel)

theorem exampleTorn_returned : (exampleFunction.handleAsync exampleTwoDays Plan.healthy 0
    { exampleTorn with paging := Paging.single }).outcome = .returned () :=
  Outcome.eq_returned (by decide +kernel)

theorem exampleTorn_invoked_sent : (exampleTorn.invoked exampleTwoDays).invocations = [] :=
  List.isEmpty_iff.mp (by decide +kernel)

/-- The payload fails once and is delivered again. -/
theorem exampleNamesakes_runs : (rebuildingHandling exampleFunction exampleNamesakes).Runs
    exampleTwoDays (exampleTorn.invoked exampleTwoDays) [] := by
  let h := rebuildingHandling exampleFunction exampleNamesakes
  have hNewly {w after : World} (hSent : after.invocations = []) : h.newly w after = [] := by
    unfold Handling.newly
    rw [show h.sent = World.invocations from rfl, hSent, List.drop_nil]
  have hStart : h.Runs exampleTwoDays exampleNamesakes [exampleTwoDays] := .start rfl
  have hTorn : h.Runs exampleTwoDays exampleTorn ([] ++ exampleTwoDays :: []) := by
    have hAttempt : h.attempt exampleNamesakes exampleTwoDays exampleTorn := ⟨_, Paging.single, rfl⟩
    have hRuns := hStart.attempt List.mem_cons_self hAttempt
    rwa [hNewly exampleTorn_sent] at hRuns
  have hRuns := hTorn.acknowledge (⟨Plan.healthy, Paging.single, exampleTorn_returned, rfl⟩ :
    h.acknowledged exampleTorn exampleTwoDays (exampleTorn.invoked exampleTwoDays))
  rwa [hNewly exampleTorn_invoked_sent] at hRuns

/-- After a failed attempt and one that returned, the facts are those of the two reports,
and the legacy object is gone. -/
theorem backfill_rebuilds_example :
    let sources := exampleService.selected (some exampleDate) (some exampleNextDate) exampleKeys
    sources.length = 2 ∧ (exampleTorn.invoked exampleTwoDays).facts.Perm
      (exampleNamesakes.unowned sources ++
        sources.flatMap (exampleService.reported exampleNamesakes)) := by
  refine ⟨by decide, ?_⟩
  exact (exampleFunction.backfill_rebuilds exampleTwoDays_requests exampleNamesakes_listing
    (by decide) rfl exampleNamesakes_apart exampleNamesakes_runs).2.1

end Example

end KiroIngest
