import KiroUsage.Ingest.PoisonIsolation
import KiroUsage.Ingest.TargetRemoval

/-! Poison isolation for the pages of a backfill, and the result for batches and
pages together. A page names its objects by their keys alone, and a report
without a date in its key is poison too. -/
namespace KiroIngest

open Text Storage Execution ReportTransform

namespace IngestService

variable (s : IngestService) (fromDate toDate : Option DateOnly) (continuationToken : Option Str)

/-- The turn of a key: the page has been opened, and the loop has been through
the keys before it. -/
def turn (plan : FaultPlan) (calls : Nat) (w : World) (before : List Str) :
    Result World Exn (Nat × List Exn) :=
  (do
    let _ ← s.openPage fromDate toDate continuationToken
    s.backfillObjects fromDate toDate before 0 []) plan calls w

/-- Exactly the poison keys are marked. -/
def Marks (plan : FaultPlan) (calls : Nat) (w : World) (marked : List (Str × Bool)) : Prop :=
  ∀ before key poison after, marked = before ++ (key, poison) :: after →
    let turn := s.turn fromDate toDate continuationToken plan calls w (before.map Prod.fst)
    poison = true ↔ dateless key = true ∨
      Poison s plan (IngestSource.create s.rawBucket key none none) turn.calls turn.state

/-- In every run some keys are the poison ones. -/
theorem exists_marks (plan : FaultPlan) (calls : Nat) (w : World) (keys : List Str) :
    ∃ marked, marked.map Prod.fst = keys ∧
      s.Marks fromDate toDate continuationToken plan calls w marked :=
  Async.exists_marked (fun before (key : Str) => dateless key = true ∨
    Poison s plan (IngestSource.create s.rawBucket key none none)
      (s.turn fromDate toDate continuationToken plan calls w before).calls
      (s.turn fromDate toDate continuationToken plan calls w before).state) keys

variable {s fromDate toDate continuationToken} {plan : FaultPlan} {calls : Nat} {w : World}

theorem isolating (hPlan : OnlyRawFails plan) (keys : List Str) :
    Isolating s plan (s.selected fromDate toDate keys) (s.backfillObject fromDate toDate) Prod.snd keys
      (fun key calls w => dateless key = true ∨
        Poison s plan (IngestSource.create s.rawBucket key none none) calls w)
      fun key _ => dateless key = true ∨ selects fromDate toDate key = true where
  untouched := by
    intro key calls w w' hAlike hPoison run
    obtain ⟨hDateless, hRun⟩ | ⟨hDate, hSelects, hRun⟩ | ⟨hDate, hSelects, hRun⟩ :=
      s.backfillObject_cases key
    · obtain ⟨event, hRun⟩ := hRun plan calls w
      rw [show run = _ from hRun]
      refine ⟨hAlike.of_frame (aside_logLine w event).toFrame rfl, _, rfl, ?_⟩
      simp [hDateless]
    · rw [show run = _ from hRun plan calls w]
      exact ⟨hAlike, _, rfl, by simp [hDate, hSelects]⟩
    · have hPoison := hPoison.resolve_left (by rw [hDate]; nofun)
      obtain ⟨hFrame, hAnalytics, failure, hOutcome, hNone⟩ := tryProcess_poison hPlan hPoison
      rw [show run = _ from hRun plan calls w failure hOutcome]
      refine ⟨hAlike.of_frame hFrame hAnalytics, _, rfl, fun _ => Or.inr hSelects, fun _ => ?_⟩
      have hThrew : failure ≠ none := by
        rintro rfl
        obtain ⟨source, hMade, hStale⟩ := hNone.mp rfl
        rw [staleEvent_of_backfill (s.sequencer_of_create hMade)] at hStale
        cases hStale
      cases failure with
      | none => exact absurd rfl hThrew
      | some error => exact nofun
  settles := by
    intro key hKey calls w calls' w' hAlike hGood run run'
    obtain ⟨hDateless, _⟩ | ⟨_, _, hRun⟩ | ⟨_, hSelects, hRun⟩ :=
      s.backfillObject_cases key
    · exact absurd (Or.inl hDateless) hGood
    · rw [show run = _ from hRun plan calls w, show run' = _ from hRun Plan.healthy calls' w']
      exact ⟨⟨_, rfl, rfl⟩, ⟨_, rfl, rfl⟩, hAlike⟩
    · have hSource (source : IngestSource)
          (hMade : IngestSource.create s.rawBucket key none none = .ok source) :
          source ∈ s.selected fromDate toDate keys := mem_selected.mpr ⟨key, hKey, hSelects, hMade⟩
      obtain ⟨hOutcome, hOutcome', hAfter⟩ :=
        hAlike.tryProcess calls' hPlan hSource fun hPoison => hGood (Or.inr hPoison)
      rw [show run = _ from hRun plan calls w none hOutcome,
        show run' = _ from hRun Plan.healthy calls' w' none hOutcome']
      exact ⟨⟨_, rfl, rfl⟩, ⟨_, rfl, rfl⟩, hAfter⟩

theorem turn_eq {page : List Str × Option Str}
    (hOpen : (s.openPage fromDate toDate continuationToken plan calls w).outcome = .returned page)
    (before : List Str) :
    let opened := s.openPage fromDate toDate continuationToken plan calls w
    let turn := Async.collect (s.backfillObject fromDate toDate) before plan opened.calls opened.state
    let run := s.turn fromDate toDate continuationToken plan calls w before
    run.calls = turn.calls ∧ run.state = turn.state := by
  intro opened turn run
  have hRun : run = s.backfillObjects fromDate toDate before 0 [] plan opened.calls opened.state :=
    Async.andThen_of_returned hOpen
  rw [hRun, backfillObjects_eq]
  exact Async.andThen_done _ _

end IngestService

/-- The listing with other objects on one of its pages. -/
def World.withPage (w : World) (continuationToken : Option Str) (keys : List Str) : World :=
  { w with rawListing := fun token =>
      if token = continuationToken then { w.rawListing token with s3Objects := some keys }
      else w.rawListing token }

namespace IngestService

variable {s : IngestService} {fromDate toDate : Option DateOnly} {continuationToken : Option Str}
  {plan : FaultPlan} {calls : Nat} {w : World}

/-- A page. -/
theorem page_isolated (hPlan : OnlyRawFails plan) {targetList : Str → Bool}
    (hTarget : parseTargetList s.platform w.targetListParameter = .ok targetList)
    (hBounds : BackfillRequest.reversed fromDate toDate = false)
    (hLinked : (w.rawListing continuationToken).Linked) {marked : List (Str × Bool)}
    (hPage : (w.rawListing continuationToken).served.1 = marked.map Prod.fst)
    (hMarks : s.Marks fromDate toDate continuationToken plan calls w marked) (calls' : Nat) :
    let run := s.processBackfillAsync fromDate toDate continuationToken plan calls w
    let clean := s.processBackfillAsync fromDate toDate continuationToken Plan.healthy calls'
      (w.withPage continuationToken (kept marked))
    (∀ key, run.state.analytics.lookup key = clean.state.analytics.lookup key) ∧
      ((∃ error, run.outcome = .threw error) ↔
        ∃ key, (key, true) ∈ marked ∧ (dateless key = true ∨ selects fromDate toDate key = true)) := by
  let w' := w.withPage continuationToken (kept marked)
  have hResponse : w'.rawListing continuationToken =
      { w.rawListing continuationToken with s3Objects := some (kept marked) } := if_pos rfl
  have hLinked' : (w'.rawListing continuationToken).Linked := by
    rw [hResponse]
    exact hLinked
  let opened := s.openPage fromDate toDate continuationToken plan calls w
  let opened' := s.openPage fromDate toDate continuationToken Plan.healthy calls' w'
  obtain ⟨hOpen, hAside⟩ := openPage_returned s fromDate toDate calls hPlan hLinked
  obtain ⟨hOpen', hAside'⟩ :=
    openPage_returned s fromDate toDate calls' onlyRawFails_healthy hLinked'
  have hServed : (w.rawListing continuationToken).served = (marked.map Prod.fst, _) :=
    Prod.ext hPage rfl
  rw [hServed] at hOpen
  have hServed' : (w'.rawListing continuationToken).served =
      (kept marked, (w.rawListing continuationToken).served.2) := by
    rw [hResponse]
    rfl
  rw [hServed'] at hOpen'
  have hReadable (after : World) :
      ∀ source ∈ s.selected fromDate toDate (marked.map Prod.fst), after.Readable source := by
    intro source hSource hLive
    obtain ⟨key, _, _, hMade⟩ := mem_selected.mp hSource
    rw [s.sequencer_of_create hMade] at hLive
    cases hLive
  have hTarget' : parseTargetList s.platform opened.state.targetListParameter = .ok targetList := by
    rw [hAside.targetListParameter]
    exact hTarget
  have hAlike : Alike s (s.selected fromDate toDate (marked.map Prod.fst)) opened.state opened'.state :=
    ⟨hAside'.raw.trans hAside.raw.symm,
      hAside'.targetListParameter.trans hAside.targetListParameter.symm,
      fun key => by rw [hAside'.analytics, hAside.analytics]; rfl, ⟨targetList, hTarget'⟩,
      hReadable opened.state⟩
  have hSelf : Alike s (s.selected fromDate toDate (marked.map Prod.fst)) opened.state opened.state :=
    ⟨rfl, rfl, fun _ => rfl, ⟨targetList, hTarget'⟩, hReadable opened.state⟩
  have hIsolating : Isolating s plan (s.selected fromDate toDate (marked.map Prod.fst))
      (s.backfillObject fromDate toDate) Prod.snd (marked.map Prod.fst) _ _ :=
    isolating hPlan (marked.map Prod.fst)
  have hMarks' : ∀ before key removed after, marked = before ++ (key, removed) :: after →
      let turn := Async.collect (s.backfillObject fromDate toDate) (before.map Prod.fst) plan
        opened.calls opened.state
      removed = true ↔ dateless key = true ∨
        Poison s plan (IngestSource.create s.rawBucket key none none) turn.calls turn.state := by
    intro before key removed after hSplit turn
    have hMark := hMarks before key removed after hSplit
    dsimp only at hMark
    rwa [(turn_eq hOpen _).1, (turn_eq hOpen _).2] at hMark
  obtain ⟨⟨outs, hOuts⟩, ⟨outs', hOuts'⟩, hAfter⟩ := hIsolating.alike opened'.calls hAlike hMarks'
  obtain ⟨hState, hThrows⟩ := processBackfillAsync_ends hBounds hOpen hOuts
  obtain ⟨hState', _⟩ := processBackfillAsync_ends hBounds hOpen' hOuts'
  refine ⟨fun key => ?_, ?_⟩
  · rw [hState.analytics, hState'.analytics, hAfter.analytics key]
  · rw [hThrows, hIsolating.errors_iff hSelf hMarks' hOuts]
    constructor
    · rintro ⟨before, key, after, hSplit, hKey⟩
      exact ⟨key, by rw [hSplit]; simp, hKey⟩
    · rintro ⟨key, hKey, hCause⟩
      obtain ⟨before, after, hSplit⟩ := List.append_of_mem hKey
      exact ⟨before, key, after, hSplit, hCause⟩

end IngestService

/-- Poison isolation. For every batch and every page, whatever its poison
objects are: the analytics bucket is as after the same batch or page without
them, and the invocation throws exactly for a poison record that is malformed or
not stale at its turn, or for a poison key that names a report within the bounds
or one without a date. -/
theorem Function.isolates_poison (f : Function) {plan : FaultPlan} (hPlan : OnlyRawFails plan)
    (calls calls' : Nat) {w : World} {targetList : Str → Bool}
    (hTarget : parseTargetList f.ingest.platform w.targetListParameter = .ok targetList) :
    (∀ marked, (∀ source ∈ f.sources (marked.map Prod.fst), w.Readable source) →
      f.Marks plan calls w marked →
      let run := f.handleS3EventAsync (some (marked.map Prod.fst)) plan calls w
      let clean := f.handleS3EventAsync (some (kept marked)) Plan.healthy calls' w
      (∀ key, run.state.analytics.lookup key = clean.state.analytics.lookup key) ∧
        ((∃ error, run.outcome = .threw error) ↔
          ∃ before record after, marked = before ++ (record, true) :: after ∧
            ((∃ error, record.source f.ingest.platform = .error error) ∨
              ∃ source, record.source f.ingest.platform = .ok source ∧
                (f.turn plan calls w (before.map Prod.fst)).state.staleEvent source ≠ .ok true))) ∧
    ∀ fromDate toDate continuationToken marked,
      BackfillRequest.reversed fromDate toDate = false →
      (w.rawListing continuationToken).Linked →
      (w.rawListing continuationToken).s3Objects.getD [] = marked.map Prod.fst →
      f.ingest.Marks fromDate toDate continuationToken plan calls w marked →
      let run := f.ingest.processBackfillAsync fromDate toDate continuationToken plan calls w
      let clean := f.ingest.processBackfillAsync fromDate toDate continuationToken Plan.healthy calls'
        (w.withPage continuationToken (kept marked))
      (∀ key, run.state.analytics.lookup key = clean.state.analytics.lookup key) ∧
        ((∃ error, run.outcome = .threw error) ↔
          ∃ key, (key, true) ∈ marked ∧
            (dateless key = true ∨ IngestService.selects fromDate toDate key = true)) := by
  refine ⟨fun marked hReadable hMarks => f.batch_isolated hPlan hTarget hReadable hMarks calls', ?_⟩
  intro fromDate toDate continuationToken marked hBounds hLinked hPage hMarks
  exact IngestService.page_isolated hPlan hTarget hBounds hLinked hPage hMarks calls'

section Example

def exampleMalformed : S3Record := ⟨none, none⟩

def exampleEvent : S3Record := ⟨some ['b'], some ⟨some ['k'], none, some ['1']⟩⟩

def exampleLive : IngestSource :=
  ⟨['b'], ['k'], none, some ['1'], exampleSource.bucket_valid, exampleSource.key_valid,
    by decide⟩

/-- The second call fails if it reads a raw object. -/
def exampleOutage : FaultPlan := fun n request =>
  if n = 1 ∧ request.isRawRead = true then .fail ⟨.other [] [], rfl⟩ false else .pass

/-- A raw object, and a page of three reports of which one has no date. -/
def exampleShelf : World :=
  { exampleWorld [⟨['b'], ['k'], ['1'], exampleReport ['a']⟩,
      ⟨['b'], exampleReportKey "21".toList, ['1'], exampleReport ['a']⟩] ∅ with
    rawListing := fun _ => ⟨some ["x.csv".toList, exampleReportKey "20".toList,
      exampleReportKey "21".toList], none, none⟩ }

theorem exampleOutage_only : OnlyRawFails exampleOutage := by
  intro n request
  by_cases h : n = 1 ∧ request.isRawRead = true
  · exact Or.inr ⟨h.2, _, _, if_pos h⟩
  · exact Or.inl (if_neg h)

/-- A malformed record, and two events of one object whose read fails at first. -/
def exampleBatch : List (S3Record × Bool) :=
  [(exampleMalformed, true), (exampleEvent, true), (exampleEvent, false)]

theorem exampleEvent_source :
    exampleEvent.source exampleFunction.ingest.platform = .ok exampleLive :=
  Fallible.eq_ok_of_toOption (by decide)

theorem exampleBatch_marks : exampleFunction.Marks exampleOutage 0 exampleShelf exampleBatch := by
  intro before record poison after hSplit
  match before, hSplit with
  | [], hSplit =>
      cases hSplit
      exact ⟨fun _ => .malformed _ rfl, fun _ => rfl⟩
  | [_], hSplit =>
      cases hSplit
      refine ⟨fun _ => ?_, fun _ => rfl⟩
      rw [exampleEvent_source]
      exact .unread exampleLive _ _ rfl rfl
  | [_, _], hSplit =>
      cases hSplit
      refine ⟨nofun, fun hPoison => ?_⟩
      rw [exampleEvent_source] at hPoison
      exact absurd hPoison (not_poison rfl (by decide))
  | _ :: _ :: _ :: _, hSplit => simp [exampleBatch] at hSplit

/-- A report without a date, one whose read fails, and one that is read. -/
def examplePage : List (Str × Bool) :=
  [("x.csv".toList, true), (exampleReportKey "20".toList, true),
    (exampleReportKey "21".toList, false)]

def exampleDaily (day : Str) (hKey : isBlank (exampleReportKey day) = false) : IngestSource :=
  ⟨['b'], exampleReportKey day, none, none, exampleSource.bucket_valid, hKey, valid_none⟩

theorem examplePage_marks :
    exampleService.Marks none none none exampleOutage 0 exampleShelf examplePage := by
  intro before key poison after hSplit
  match before, hSplit with
  | [], hSplit =>
      cases hSplit
      exact ⟨fun _ => Or.inl (by decide), fun _ => rfl⟩
  | [_], hSplit =>
      cases hSplit
      refine ⟨fun _ => Or.inr ?_, fun _ => rfl⟩
      exact .unread (exampleDaily "20".toList (by decide)) _ _
        (Fallible.eq_ok_of_toOption (by decide)) rfl
  | [_, _], hSplit =>
      cases hSplit
      refine ⟨nofun, fun hPoison => ?_⟩
      have hMade : IngestSource.create exampleService.rawBucket (exampleReportKey "21".toList) none
          none = .ok (exampleDaily "21".toList (by decide)) :=
        Fallible.eq_ok_of_toOption (by decide)
      rw [hMade] at hPoison
      refine absurd (hPoison.resolve_left ?_) (not_poison rfl (by decide))
      exact (by decide : dateless (exampleReportKey "21".toList) = false).symm ▸ nofun
  | _ :: _ :: _ :: _, hSplit => simp [examplePage] at hSplit

def exampleBatchRun : Result World Exn Unit :=
  exampleFunction.handleS3EventAsync (some (exampleBatch.map Prod.fst)) exampleOutage 0 exampleShelf

def examplePageRun : Result World Exn Unit :=
  exampleFunction.ingest.processBackfillAsync none none none exampleOutage 0 exampleShelf

/-- What is left of both are the effects of the last entry, and both throw. -/
theorem isolates_poison_example :
    ((∀ key, exampleBatchRun.state.analytics.lookup key = (exampleFunction.handleS3EventAsync
        (some [exampleEvent]) Plan.healthy 0 exampleShelf).state.analytics.lookup key) ∧
      ∃ error, exampleBatchRun.outcome = .threw error) ∧
    (∀ key, examplePageRun.state.analytics.lookup key =
        (exampleFunction.ingest.processBackfillAsync none none none Plan.healthy 0
          (exampleShelf.withPage none [exampleReportKey "21".toList])).state.analytics.lookup key) ∧
      ∃ error, examplePageRun.outcome = .threw error := by
  have hTarget : parseTargetList exampleFunction.ingest.platform exampleShelf.targetListParameter =
      .ok exampleTargetList := rfl
  have hReadable (source : IngestSource) : exampleShelf.Readable source :=
    fun _ => ⟨none, rfl, nofun⟩
  obtain ⟨hBatch, hPage⟩ := exampleFunction.isolates_poison exampleOutage_only 0 0 hTarget
  have hKept : kept exampleBatch = [exampleEvent] := rfl
  have hKept' : kept examplePage = [exampleReportKey "21".toList] := rfl
  obtain ⟨hSame, hThrows⟩ := hBatch exampleBatch (fun source _ => hReadable source) exampleBatch_marks
  obtain ⟨hSame', hThrows'⟩ := hPage none none none examplePage rfl nofun rfl examplePage_marks
  rw [hKept] at hSame
  rw [hKept'] at hSame'
  unfold exampleBatchRun examplePageRun
  refine ⟨⟨hSame, hThrows.mpr ?_⟩, hSame', hThrows'.mpr ?_⟩
  · exact ⟨[], exampleMalformed, _, rfl, Or.inl ⟨_, rfl⟩⟩
  · exact ⟨"x.csv".toList, List.mem_cons_self, Or.inl (by decide)⟩

end Example

end KiroIngest
