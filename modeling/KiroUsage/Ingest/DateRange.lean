import KiroUsage.Ingest.Grain
import KiroUsage.Ingest.TargetRemoval

/-! Which facts a bounded backfill reconciles. It selects reports by the date in
their key, while the facts are partitioned by the date in the report, so the
facts of a report outside the bounds stay, whatever their own date. -/
namespace KiroIngest

open Text Storage Execution ReportTransform

/-- The object was published from a raw object with this key, under some Target
List. -/
def PublishedFrom (s : IngestService) (key path : Str) (body : ObjectBody) : Prop :=
  ∃ source, IngestSource.create s.rawBucket key none none = .ok source ∧
    ∃ csvText targetList result, transform s.platform csvText targetList = .ok result ∧
      (path, body) ∈ prepareOutputs source result

/-- The deliveries of one backfill from a state of the services on, with nothing
else going on. A payload is delivered once an invocation with it returns. -/
def reconcilingHandling (f : Function) (start : World) : Handling World Json :=
  backfillHandling f (· = start) (fun _ outcome => outcome = .returned ()) fun _ _ => False

/-- What every run keeps and what it establishes may be said together with a
further invariant of all runs. -/
theorem Achieves.with_invariant {s : IngestService} {plan : FaultPlan} {sources : List IngestSource}
    {settled : Outcome Exn Unit → Prop} {invariant other : World → Prop}
    {done : World → IngestSource → Prop}
    (h : Achieves s plan sources settled invariant done)
    (hSame : ∀ w after, after.analytics = w.analytics → other w → other after)
    (hRun : ∀ source outcome w after, source ∈ sources →
      Effect s plan source w outcome after → other w → other after) :
    Achieves s plan sources settled (fun w => invariant w ∧ other w) done where
  same := by
    intro w after hAnalytics hHistory hRaw hTarget ⟨hInvariant, hOther⟩
    obtain ⟨hAfter, hKept⟩ := h.same w after hAnalytics hHistory hRaw hTarget hInvariant
    exact ⟨⟨hAfter, hSame w after hAnalytics hOther⟩, hKept⟩
  run := by
    intro source outcome w after hSource hFrame hEffect ⟨hInvariant, hOther⟩
    obtain ⟨hAfter, hDone, hKept⟩ := h.run source outcome w after hSource hFrame hEffect hInvariant
    exact ⟨⟨hAfter, hRun source outcome w after hSource hEffect hOther⟩, hDone, hKept⟩

/-- The fact objects that carry no name of the sources are those of the start. -/
def KeepsOthers (sources : List IngestSource) (start w : World) : Prop :=
  ∀ path, isFactKey path = true → (∀ source ∈ sources, owned source path = false) →
    w.analytics.lookup path = start.analytics.lookup path

/-- After a backfill all objects with a name of a selected report hold rows of
the Target List, and the other fact objects are as before. -/
theorem Function.backfill_splits (f : Function) {fromDate toDate : Option DateOnly} {root : Json}
    {listing : Listing Str Str} {parameter : Option Str} {targetList : Str → Bool} {start w : World}
    (hRoot : Requests root ⟨some BackfillRequest.modeValue, fromDate, toDate, none⟩)
    (hListing : RawListing start.rawListing listing) (hInvocations : start.invocations = [])
    (hParameter : start.targetListParameter = parameter)
    (hTarget : parseTargetList f.ingest.platform parameter = .ok targetList)
    (hRuns : (reconcilingHandling f start).Runs root w []) :
    (∀ source ∈ f.ingest.selected fromDate toDate listing.objects, w.Listed targetList source) ∧
      KeepsOthers (f.ingest.selected fromDate toDate listing.objects) start w := by
  have hAchieves (plan : FaultPlan) : Achieves f.ingest plan
      (f.ingest.selected fromDate toDate listing.objects) (· = .returned ())
      (fun w => w.targetListParameter = parameter ∧
        KeepsOthers (f.ingest.selected fromDate toDate listing.objects) start w)
      (World.Listed targetList) := by
    refine (listed_achieves hTarget fun source hSource outcome hReturned =>
      ⟨hReturned, ?_⟩).with_invariant ?_ ?_
    · obtain ⟨key, _, _, hMade⟩ := IngestService.mem_selected.mp hSource
      exact f.ingest.sequencer_of_create hMade
    · intro w after hAnalytics hKeeps path hFact hOther
      rw [hAnalytics]
      exact hKeeps path hFact hOther
    · intro source outcome w after hSource hEffect hKeeps path hFact hOther
      rw [hEffect.lookup_other (hOther source hSource) (ne_stateKey_of_isFactKey hFact source)]
      exact hKeeps path hFact hOther
  have hReliable : (reconcilingHandling f start).Reliable root _ _ :=
    backfill_reliable (f := f) hRoot hListing hAchieves
      (fun w hStart => by
        rw [hStart]
        exact ⟨hInvocations, rfl, hParameter, fun _ _ _ => rfl⟩)
      (fun plan outcome hReturned => Or.inr ⟨hReturned, rfl⟩) (fun _ _ h => h.elim)
  obtain ⟨⟨_, hKeeps⟩, _, hDone⟩ := backfill_achieves hListing hReliable hRuns
  exact ⟨hDone rfl, hKeeps⟩

/-- A bounded backfill reconciles the facts of the reports it selects. A fact
object with a row outside the Target List was there before, and it was published
from an object whose key the backfill does not select. -/
theorem Function.backfill_reconciles (f : Function) {fromDate toDate : DateOnly} {root : Json}
    {listing : Listing Str Str} {parameter : Option Str} {targetList : Str → Bool} {start w : World}
    (hRoot : Requests root ⟨some BackfillRequest.modeValue, some fromDate, some toDate, none⟩)
    (hListing : RawListing start.rawListing listing) (hInvocations : start.invocations = [])
    (hParameter : start.targetListParameter = parameter)
    (hTarget : parseTargetList f.ingest.platform parameter = .ok targetList)
    (hPublished : ∀ path body, isFactKey path = true → start.analytics.lookup path = some body →
      ∃ key ∈ listing.objects, PublishedFrom f.ingest key path body)
    (hRuns : (reconcilingHandling f start).Runs root w []) :
    ∀ path body, isFactKey path = true → w.analytics.lookup path = some body →
      body.Listed targetList ∨ (start.analytics.lookup path = some body ∧
        ∃ key ∈ listing.objects, PublishedFrom f.ingest key path body ∧
          IngestService.selects (some fromDate) (some toDate) key = false) := by
  obtain ⟨hListed, hKeeps⟩ :=
    f.backfill_splits hRoot hListing hInvocations hParameter hTarget hRuns
  intro path body hFact hBody
  by_cases hReached : ∃ source ∈ f.ingest.selected (some fromDate) (some toDate) listing.objects,
      owned source path = true
  · obtain ⟨source, hSource, hOwned⟩ := hReached
    exact Or.inl (hListed source hSource path body hOwned hBody)
  have hOthers : ∀ source ∈ f.ingest.selected (some fromDate) (some toDate) listing.objects,
      owned source path = false :=
    fun source hSource => by simpa using fun hOwned => hReached ⟨source, hSource, hOwned⟩
  have hBefore := (hKeeps path hFact hOthers).symm.trans hBody
  obtain ⟨key, hKey, source, hMade, hFrom⟩ := hPublished path body hFact hBefore
  refine Or.inr ⟨hBefore, key, hKey, ⟨source, hMade, hFrom⟩, ?_⟩
  by_contra hSelects
  have hSource := IngestService.mem_selected.mpr
    ⟨key, hKey, (Bool.not_eq_false _).mp hSelects, hMade⟩
  obtain ⟨_, _, _, _, hOutput⟩ := hFrom
  have hOwned := owned_of_mem_prepareOutputs path (List.mem_map.mpr ⟨_, hOutput, rfl⟩)
  rw [hOthers source hSource] at hOwned
  cases hOwned

section Example

theorem exampleDate_isSome : (DateOnly.ofNats 2026 6 20).isSome = true := by
  decide

def exampleDate : DateOnly := (DateOnly.ofNats 2026 6 20).get exampleDate_isSome

/-- A backfill of one day. -/
def exampleDay : Json :=
  (BackfillRequest.mk (some BackfillRequest.modeValue) (some exampleDate) (some exampleDate)
    none).serialize

def exampleKeys : List Str := [exampleReportKey "20".toList, exampleReportKey "21".toList]

def exampleListing : Listing Str Str := .last exampleKeys

theorem exampleLate_valid : isBlank (exampleReportKey "21".toList) = false := by
  decide

/-- The report of the next day in its key has a row of the same day. -/
def exampleLate : IngestSource :=
  ⟨['b'], exampleReportKey "21".toList, none, none, exampleSource.bucket_valid, exampleLate_valid,
    valid_none⟩

def exampleLatePath : Str :=
  outputKey usageDailyPrefix "2026-06-20".toList "KIRO_CLI".toList ['b'] exampleLate.key

def exampleLateBody : ObjectBody :=
  .usageDaily [⟨['u'], ['z'], 1, 0, 0, 0, false, ['t'], 2, false, ['p']⟩]

/-- A fact of the user `z`, who has left the Target List since. -/
def exampleBefore : World where
  raw := [⟨['b'], exampleReportKey "20".toList, ['1'], exampleReport ['a']⟩,
    ⟨['b'], exampleReportKey "21".toList, ['1'], exampleReport ['z']⟩]
  rawListing := fun _ => ⟨some exampleKeys, none, none⟩
  analytics := AList.insert exampleLatePath exampleLateBody ∅
  paging := Paging.single
  targetListParameter := some ['a']
  invocations := []
  log := []
  history := []

theorem exampleDay_requests : Requests exampleDay
    ⟨some BackfillRequest.modeValue, some exampleDate, some exampleDate, none⟩ :=
  ⟨_, _, rfl, rfl, BackfillRequest.deserialize_serialize _,
    BackfillRequest.validate_continuation (by decide) (fun _ => nofun)⟩

theorem exampleBefore_listing : RawListing exampleBefore.rawListing exampleListing :=
  ⟨.last rfl, fun _ _ => nofun⟩

theorem exampleBefore_published (path : Str) (body : ObjectBody)
    (hBody : exampleBefore.analytics.lookup path = some body) :
    ∃ key ∈ exampleListing.objects, PublishedFrom exampleService key path body := by
  have hPath : path = exampleLatePath := by
    by_contra hNe
    rw [show exampleBefore.analytics = AList.insert exampleLatePath exampleLateBody ∅ from rfl,
      AList.lookup_insert_ne hNe] at hBody
    cases hBody
  subst hPath
  cases hBody.symm.trans (AList.lookup_insert _)
  exact ⟨exampleLate.key, List.mem_cons_of_mem _ List.mem_cons_self, exampleLate,
    Fallible.eq_ok_of_toOption (by decide), exampleReport ['z'], fun email => email == ['z'],
    exampleResult ['z'], Fallible.eq_ok_of_toOption (by decide),
    mem_prepareOutputs.mpr ⟨_, List.mem_cons_self, Or.inl rfl⟩⟩

/-- The backfill is through after one invocation. -/
theorem exampleBefore_runs : (reconcilingHandling exampleFunction exampleBefore).Runs exampleDay
    (exampleBefore.invoked exampleDay) [] := by
  have hReturned : (exampleFunction.handleAsync exampleDay Plan.healthy 0
      { exampleBefore with paging := Paging.single }).outcome = .returned () :=
    Outcome.eq_returned (by decide +kernel)
  obtain ⟨_, hSent⟩ := invoked_page exampleDay_requests (exampleBefore_listing.linked none .first)
    (by rw [hReturned]; nofun)
  have hStart : (reconcilingHandling exampleFunction exampleBefore).Runs exampleDay exampleBefore
      ([] ++ [exampleDay]) := .start rfl
  have hRuns := hStart.acknowledge (⟨Plan.healthy, Paging.single, hReturned, rfl⟩ :
    (reconcilingHandling exampleFunction exampleBefore).acknowledged exampleBefore exampleDay
      (exampleBefore.invoked exampleDay))
  have hNewly : (reconcilingHandling exampleFunction exampleBefore).newly exampleBefore
      (exampleBefore.invoked exampleDay) = [] := by
    unfold Handling.newly
    rw [show (reconcilingHandling exampleFunction exampleBefore).sent = World.invocations from rfl,
      hSent]
    rfl
  rwa [hNewly] at hRuns

/-- The backfill does not select the late report, and leaves its object. -/
theorem exampleLate_left : (exampleBefore.invoked exampleDay).analytics.lookup exampleLatePath =
    some exampleLateBody := by
  have hOther : (exampleService.selected (some exampleDate) (some exampleDate)
      exampleListing.objects).all (fun source => !owned source exampleLatePath) = true := by
    decide +kernel
  have hLeft := (exampleFunction.backfill_splits exampleDay_requests exampleBefore_listing rfl rfl
    rfl exampleBefore_runs).2 exampleLatePath (by decide)
      (fun source hSource => (Bool.not_eq_true' _).mp (List.all_eq_true.mp hOther source hSource))
  exact hLeft.trans (AList.lookup_insert _)

/-- The late object is one of those that the backfill does not reach. -/
theorem backfill_reconciles_example :
    exampleLateBody.Listed exampleTargetList ∨
      (exampleBefore.analytics.lookup exampleLatePath = some exampleLateBody ∧
        ∃ key ∈ exampleListing.objects,
          PublishedFrom exampleService key exampleLatePath exampleLateBody ∧
            IngestService.selects (some exampleDate) (some exampleDate) key = false) :=
  exampleFunction.backfill_reconciles exampleDay_requests exampleBefore_listing rfl rfl rfl
    (fun path body _ hBody => exampleBefore_published path body hBody) exampleBefore_runs
    exampleLatePath exampleLateBody (by decide) exampleLate_left

/-- The backfill of a day leaves a row of that day for a user outside the Target
List, although all its invocations have returned. -/
theorem unreconciled :
    ∃ row, exampleDate ≤ exampleDate ∧ RawListing exampleBefore.rawListing exampleListing ∧
      Requests exampleDay
        ⟨some BackfillRequest.modeValue, some exampleDate, some exampleDate, none⟩ ∧
      (∀ path body, isFactKey path = true → exampleBefore.analytics.lookup path = some body →
        ∃ key ∈ exampleListing.objects, PublishedFrom exampleService key path body) ∧
      (reconcilingHandling exampleFunction exampleBefore).Runs exampleDay
        (exampleBefore.invoked exampleDay) [] ∧
      (exampleBefore.invoked exampleDay).analytics.lookup exampleLatePath =
        some (.usageDaily [row]) ∧
      (pathColumns exampleLatePath).1 = exampleDate.format ∧
      exampleTargetList row.userEmail = false :=
  ⟨_, Nat.le_refl _, exampleBefore_listing, exampleDay_requests,
    fun path body _ hBody => exampleBefore_published path body hBody, exampleBefore_runs,
    exampleLate_left, by decide, by decide⟩

end Example

end KiroIngest
