import KiroUsage.Ingest.Function
import KiroUsage.Ingest.Effect

/-! What one invocation of the function does, whatever the plan: a sequence of
runs of `ProcessCsvAsync`, one for each record or each selected key of a page.
No failing run keeps the ones after it from being tried. -/
namespace KiroIngest

open Text Storage Execution

/-- Nothing has happened but log lines. -/
structure Aside (before after : World) : Prop extends Frame before after where
  analytics : after.analytics = before.analytics
  history : after.history = before.history

theorem Aside.refl (w : World) : Aside w w := ⟨Frame.refl w, rfl, rfl⟩

theorem aside_logLine (w : World) (event : LogEvent) : Aside w { w with log := w.log ++ [event] } :=
  ⟨⟨rfl, rfl, rfl, rfl, rfl⟩, rfl, rfl⟩

/-- A source and the outcome of its run. -/
abbrev SourceRun := IngestSource × Outcome Exn Unit

/-- Runs of `ProcessCsvAsync`, one after the other. -/
inductive Trace (s : IngestService) (plan : FaultPlan) (start : World) :
    List SourceRun → World → Prop
  | begin {w : World} (h : Aside start w) : Trace s plan start [] w
  | run {done : List SourceRun} {w after : World} {source : IngestSource}
      {outcome : Outcome Exn Unit} (h : Trace s plan start done w) (hFrame : Frame w after)
      (hEffect : Effect s plan source w outcome after) :
      Trace s plan start (done ++ [(source, outcome)]) after
  | aside {done : List SourceRun} {w after : World} (h : Trace s plan start done w)
      (hAside : Aside w after) : Trace s plan start done after

namespace Trace

variable {s : IngestService} {plan : FaultPlan} {start w : World} {done : List SourceRun}

theorem frame (h : Trace s plan start done w) : Frame start w := by
  induction h with
  | begin h => exact h.toFrame
  | run _ hFrame _ ih => exact ih.trans hFrame
  | aside _ hAside ih => exact ih.trans hAside.toFrame

theorem logLine (h : Trace s plan start done w) (event : LogEvent) :
    Trace s plan start done { w with log := w.log ++ [event] } :=
  h.aside (aside_logLine w event)

end Trace

theorem Effect.history {s : IngestService} {plan : FaultPlan} {source : IngestSource}
    {before after : World} {outcome : Outcome Exn Unit}
    (h : Effect s plan source before outcome after) :
    after.history = before.history ++ [.processing source] ∨
      after.history = before.history ++ [.processing source, .published source] := by
  cases h with
  | skipped _ _ _ hHistory => exact Or.inl hHistory
  | interrupted _ _ _ hHistory => exact Or.inl hHistory
  | torn _ _ _ _ _ _ _ hHistory => exact Or.inl hHistory
  | unsaved _ _ _ _ _ _ _ _ hHistory => exact Or.inr hHistory
  | published _ _ _ _ _ _ _ hHistory => exact Or.inr hHistory

/-- A call of `ProcessCsvAsync` prolongs the trace by its run. -/
theorem IngestService.processCsvAsync_trace (s : IngestService) (plan : FaultPlan) (start : World)
    (done : List SourceRun) (source : IngestSource) :
    Triple plan (Trace s plan start done) (s.processCsvAsync source)
      ⟨fun value => Trace s plan start (done ++ [(source, .returned value)]),
        fun error => Trace s plan start (done ++ [(source, .threw error)]),
        Trace s plan start (done ++ [(source, .killed)])⟩ := by
  intro calls w h
  obtain ⟨hFrame, hEffect⟩ := s.processCsvAsync_effect source plan calls w
  unfold Result.Meets
  cases hOutcome : (s.processCsvAsync source plan calls w).outcome with
  | returned value => exact h.run hFrame (hOutcome ▸ hEffect)
  | threw error => exact h.run hFrame (hOutcome ▸ hEffect)
  | killed => exact h.run hFrame (hOutcome ▸ hEffect)

/-- Where no call is disturbed, no run is killed. -/
theorem Effect.ne_killed {s : IngestService} {source : IngestSource} {before after : World}
    {outcome : Outcome Exn Unit} (h : Effect s Plan.healthy source before outcome after) :
    outcome ≠ .killed := by
  rintro rfl
  cases h with
  | skipped hOutcome _ _ _ => cases hOutcome
  | interrupted _ _ _ _ hKilled =>
      obtain ⟨request, _, hDisturbs⟩ := hKilled rfl
      exact not_disturbs_healthy request hDisturbs
  | torn _ _ _ _ hDisturbed _ _ _ =>
      obtain ⟨key, _, hDisturbs | hDisturbs⟩ := hDisturbed
      · exact not_disturbs_healthy _ hDisturbs
      · exact not_disturbs_healthy _ hDisturbs
  | unsaved _ _ _ _ _ hDisturbs _ _ _ => exact not_disturbs_healthy _ hDisturbs
  | published _ _ hOutcome _ _ _ _ _ => cases hOutcome

theorem Trace.ne_killed {s : IngestService} {start w : World} {done : List SourceRun}
    (h : Trace s Plan.healthy start done w) : ∀ run ∈ done, run.2 ≠ .killed := by
  induction h with
  | begin _ => exact nofun
  | run _ _ hEffect ih =>
      intro run hm
      rcases List.mem_append.mp hm with hm | hm
      · exact ih run hm
      · rw [List.mem_singleton.mp hm]
        exact hEffect.ne_killed
  | aside _ _ ih => exact ih

/-- A notion of done sources that a run with a certain outcome establishes and
that no run undoes, under an invariant of all runs. -/
structure Achieves (s : IngestService) (plan : FaultPlan) (sources : List IngestSource)
    (settled : Outcome Exn Unit → Prop) (invariant : World → Prop)
    (done : World → IngestSource → Prop) : Prop where
  same : ∀ w after, after.analytics = w.analytics → after.history = w.history →
    after.raw = w.raw → after.targetListParameter = w.targetListParameter → invariant w →
      invariant after ∧ ∀ source, done w source → done after source
  run : ∀ source outcome w after, source ∈ sources → Frame w after →
    Effect s plan source w outcome after → invariant w →
      invariant after ∧ (settled outcome → done after source) ∧
        ∀ other, done w other → done after other

section Achieved

variable {s : IngestService} {plan : FaultPlan} {sources : List IngestSource}
  {settled : Outcome Exn Unit → Prop} {invariant : World → Prop} {done : World → IngestSource → Prop}

/-- What a trace achieves. -/
theorem Trace.achieves (hAchieves : Achieves s plan sources settled invariant done)
    {start w : World} {runs : List SourceRun} (h : Trace s plan start runs w)
    (hSources : ∀ run ∈ runs, run.1 ∈ sources) (hStart : invariant start) :
    invariant w ∧ (∀ run ∈ runs, settled run.2 → done w run.1) ∧
      ∀ source, done start source → done w source := by
  induction h with
  | begin hAside =>
      obtain ⟨hInvariant, hKept⟩ := hAchieves.same _ _ hAside.analytics hAside.history
        hAside.raw hAside.targetListParameter hStart
      exact ⟨hInvariant, nofun, hKept⟩
  | @run runs w after source outcome _ hFrame hEffect ih =>
      obtain ⟨hInvariant, hDone, hKept⟩ := ih fun run hm => hSources run (List.mem_append_left _ hm)
      obtain ⟨hAfter, hOwn, hKeeps⟩ := hAchieves.run source outcome w after
        (hSources (source, outcome) (by simp)) hFrame hEffect hInvariant
      refine ⟨hAfter, fun run hm hSettled => ?_, fun other hOther => hKeeps other (hKept other hOther)⟩
      rcases List.mem_append.mp hm with hm | hm
      · exact hKeeps _ (hDone run hm hSettled)
      · rw [List.mem_singleton.mp hm] at hSettled ⊢
        exact hOwn hSettled
  | aside _ hAside ih =>
      obtain ⟨hInvariant, hDone, hKept⟩ := ih hSources
      obtain ⟨hAfter, hKeeps⟩ := hAchieves.same _ _ hAside.analytics hAside.history
        hAside.raw hAside.targetListParameter hInvariant
      exact ⟨hAfter, fun run hm hSettled => hKeeps _ (hDone run hm hSettled),
        fun source hSource => hKeeps _ (hKept source hSource)⟩

end Achieved

section Attempts

variable {s : IngestService} {plan : FaultPlan} {start : World} {done : List SourceRun}

/-- One turn of a loop that collects failures: the source is made, if it can
be, and processed. -/
theorem attempt_trace (created : Except Exn IngestSource) :
    Triple plan (Trace s plan start done)
      (Async.attempt do
        let source ← Async.ofExcept created
        s.processCsvAsync source)
      ⟨fun failure w => ∃ more, Trace s plan start (done ++ more) w ∧
          more.map Prod.fst = created.toOption.toList ∧
          (failure = none → (∃ source, created = .ok source) ∧ ∀ run ∈ more, run.2 = .returned ()),
        fun _ _ => False,
        fun w => ∃ more, Trace s plan start (done ++ more) w ∧
          more.map Prod.fst = created.toOption.toList ∧ ∃ run ∈ more, run.2 = .killed⟩ := by
  refine Triple.attempt ?_
  cases created with
  | error error =>
      refine Triple.bind (fun _ _ => False) (Triple.throwing error fun w h => ?_) fun _ _ _ h => h.elim
      exact ⟨[], by simpa using h, rfl, nofun⟩
  | ok source =>
      refine Triple.bind (fun value w => value = source ∧ Trace s plan start done w)
        (Triple.done source fun _ h => ⟨rfl, h⟩) fun value => ?_
      refine Triple.assuming (fun _ h => h.1) fun hValue => ?_
      subst hValue
      refine (s.processCsvAsync_trace plan start done value).consequence (fun _ h => h.2) ?_ ?_ ?_
      · exact fun _ w h => ⟨_, h, rfl, fun _ => ⟨⟨value, rfl⟩, fun run hm => by simp_all⟩⟩
      · exact fun error w h => ⟨_, h, rfl, nofun⟩
      · exact fun w h => ⟨_, h, rfl, _, List.mem_singleton_self _, rfl⟩

end Attempts

namespace Function

variable (f : Function) (plan : FaultPlan)

/-- The sources of the well-formed records of an event. -/
def sources (records : List S3Record) : List IngestSource :=
  records.filterMap fun record => (record.source f.ingest.platform).toOption

theorem sources_cons (record : S3Record) (records : List S3Record) :
    f.sources (record :: records) =
      (record.source f.ingest.platform).toOption.toList ++ f.sources records := by
  unfold sources
  rw [List.filterMap_cons]
  cases (record.source f.ingest.platform).toOption <;> rfl

/-- The record loop. -/
theorem handleRecords_spec {start : World} {done : List SourceRun} (records : List S3Record)
    (failures : List Exn) :
    Triple plan (Trace f.ingest plan start done) (f.handleRecords records failures)
      ⟨fun _ w => ∃ more, Trace f.ingest plan start (done ++ more) w ∧
          more.map Prod.fst = f.sources records,
        fun _ _ => False,
        fun w => ∃ more, Trace f.ingest plan start (done ++ more) w ∧
          (∀ run ∈ more, run.1 ∈ f.sources records) ∧ ∃ run ∈ more, run.2 = .killed⟩ := by
  induction records generalizing done failures with
  | nil => exact Triple.done _ fun w h => ⟨[], by simpa using h, rfl⟩
  | cons record rest ih =>
      refine Triple.bind _ ((attempt_trace _).consequence (fun _ h => h) (fun _ _ h => h)
        (fun _ _ h => h.elim) ?_) fun failure => ?_
      · rintro w ⟨more, hTrace, hSource, hKilled⟩
        refine ⟨more, hTrace, fun run hm => ?_, hKilled⟩
        rw [sources_cons, ← hSource]
        exact List.mem_append_left _ (List.mem_map.mpr ⟨run, hm, rfl⟩)
      refine Triple.pointwise fun w hState => ?_
      obtain ⟨first, hTrace, hSource, _⟩ := hState
      refine (ih _).consequence (fun _ hEq => hEq ▸ hTrace) ?_ (fun _ _ h => h.elim) ?_
      · rintro _ after ⟨more, hTrace, hRest⟩
        exact ⟨first ++ more, by simpa using hTrace, by simp [sources_cons, hSource, hRest]⟩
      · rintro after ⟨more, hTrace, hRest, run, hRun, hKilled⟩
        refine ⟨first ++ more, by simpa using hTrace, fun run hm => ?_, run,
          List.mem_append_right first hRun, hKilled⟩
        rw [sources_cons, List.mem_append]
        refine (List.mem_append.mp hm).imp (fun hFirst => ?_) (hRest run)
        rw [← hSource]
        exact List.mem_map.mpr ⟨run, hFirst, rfl⟩

/-- One invocation for an S3 event, whatever the plan. It is killed only in one
of its runs. -/
theorem handleS3EventAsync_trace (records : Option (List S3Record)) (calls : Nat) (before : World) :
    let run := f.handleS3EventAsync records plan calls before
    ∃ runs, Trace f.ingest plan before runs run.state ∧
      (∀ run ∈ runs, run.1 ∈ f.sources (records.getD [])) ∧
      (run.outcome ≠ .killed → runs.map Prod.fst = f.sources (records.getD [])) ∧
      (run.outcome = .killed → ∃ run ∈ runs, run.2 = .killed) := by
  have hTriple : Triple plan (· = before) (f.handleS3EventAsync records)
      ⟨fun _ w => ∃ runs, Trace f.ingest plan before runs w ∧
          runs.map Prod.fst = f.sources (records.getD []),
        fun _ w => ∃ runs, Trace f.ingest plan before runs w ∧
          runs.map Prod.fst = f.sources (records.getD []),
        fun w => ∃ runs, Trace f.ingest plan before runs w ∧
          (∀ run ∈ runs, run.1 ∈ f.sources (records.getD [])) ∧ ∃ run ∈ runs, run.2 = .killed⟩ := by
    have hStart (w : World) (hEq : w = before) : Trace f.ingest plan before [] w := by
      rw [hEq]
      exact .begin (Aside.refl before)
    refine Triple.bind _ ((f.handleRecords_spec plan (records.getD []) []).consequence hStart
      (fun _ _ h => h) (fun _ _ h => h.elim) fun _ h => h) fun failures => ?_
    split_ifs
    · exact Triple.throwing _ fun _ h => h
    · exact Triple.done () fun _ h => h
  intro run
  have hSources {runs : List SourceRun} (h : runs.map Prod.fst = f.sources (records.getD [])) :
      ∀ run ∈ runs, run.1 ∈ f.sources (records.getD []) := by
    intro run hm
    rw [← h]
    exact List.mem_map.mpr ⟨run, hm, rfl⟩
  obtain ⟨_, hEnd, runs, hTrace, hRuns⟩ | ⟨_, hEnd, runs, hTrace, hRuns⟩ |
    ⟨hEnd, runs, hTrace, hRuns, hKilled⟩ := hTriple.ends calls
  · exact ⟨runs, hTrace, hSources hRuns, fun _ => hRuns, fun h => by cases hEnd.symm.trans h⟩
  · exact ⟨runs, hTrace, hSources hRuns, fun _ => hRuns, fun h => by cases hEnd.symm.trans h⟩
  · exact ⟨runs, hTrace, hRuns, fun h => absurd hEnd h, fun _ => hKilled⟩

/-- An invocation in which no call fails processes every record. -/
theorem handleS3EventAsync_healthy (records : Option (List S3Record)) (calls : Nat)
    (before : World) :
    ∃ runs, Trace f.ingest Plan.healthy before runs
        (f.handleS3EventAsync records Plan.healthy calls before).state ∧
      runs.map Prod.fst = f.sources (records.getD []) := by
  obtain ⟨runs, hTrace, _, hAll, hKilled⟩ :=
    f.handleS3EventAsync_trace Plan.healthy records calls before
  refine ⟨runs, hTrace, hAll fun h => ?_⟩
  obtain ⟨run, hRun, hEnd⟩ := hKilled h
  exact hTrace.ne_killed run hRun hEnd

end Function

namespace IngestService

variable (s : IngestService) (fromDate toDate : Option DateOnly)

/-- A backfill processes the reports whose path date is within its bounds. -/
def selects (fromDate toDate : Option DateOnly) (key : Str) : Bool :=
  endsWithIgnoreCase key ".csv".toList &&
    (extractDateFromKey key).any fun keyDate => !outsideBounds fromDate toDate keyDate

/-- The sources that a backfill makes of a page. -/
def selected (keys : List Str) : List IngestSource :=
  (keys.filter (selects fromDate toDate)).filterMap fun key =>
    (IngestSource.create s.rawBucket key none none).toOption

variable {s fromDate toDate} in
theorem mem_selected {keys : List Str} {source : IngestSource} :
    source ∈ s.selected fromDate toDate keys ↔ ∃ key ∈ keys, selects fromDate toDate key = true ∧
      IngestSource.create s.rawBucket key none none = .ok source := by
  have hOption (key : Str) : (IngestSource.create s.rawBucket key none none).toOption = some source ↔
      IngestSource.create s.rawBucket key none none = .ok source := by
    cases IngestSource.create s.rawBucket key none none <;> simp [Except.toOption]
  simp only [selected, List.mem_filterMap, List.mem_filter, hOption, and_assoc]

/-- A key that a backfill selects names a source. -/
theorem create_of_selects {key : Str} (h : selects fromDate toDate key = true) :
    ∃ source, IngestSource.create s.rawBucket key none none = .ok source := by
  rw [selects, Bool.and_eq_true] at h
  have hKey := isBlank_of_endsWithIgnoreCase h.1 (by decide)
  exact ⟨⟨s.rawBucket, key, none, none, s.rawBucket_valid, hKey, nofun⟩, by
    rw [IngestSource.create, dif_pos s.rawBucket_valid, dif_pos hKey, dif_pos]⟩

/-- A source made of a key alone is a backfill's. -/
theorem sequencer_of_create {key : Str} {source : IngestSource}
    (h : IngestSource.create s.rawBucket key none none = .ok source) : source.sequencer = none := by
  unfold IngestSource.create at h
  split_ifs at h
  · cases h
    rfl

theorem selected_cons (key : Str) (keys : List Str) :
    s.selected fromDate toDate (key :: keys) =
      (if selects fromDate toDate key then (IngestSource.create s.rawBucket key none none).toOption.toList
        else []) ++ s.selected fromDate toDate keys := by
  unfold selected
  rw [List.filter_cons]
  split_ifs
  · rw [List.filterMap_cons]
    cases (IngestSource.create s.rawBucket key none none).toOption <;> rfl
  · rfl

variable {s fromDate toDate} {plan : FaultPlan} {start : World} {done : List SourceRun}

/-- One turn of the page loop. -/
theorem backfillObject_spec (key : Str) :
    Triple plan (Trace s plan start done) (s.backfillObject fromDate toDate key)
      ⟨fun value w => ∃ more, Trace s plan start (done ++ more) w ∧
          more.map Prod.fst = s.selected fromDate toDate [key] ∧
          (value.2 = [] → ∀ run ∈ more, run.2 = .returned ()),
        fun _ _ => False,
        fun w => ∃ more, Trace s plan start (done ++ more) w ∧
          more.map Prod.fst = s.selected fromDate toDate [key]⟩ := by
  rw [selected_cons]
  have hSkip {errors : List Exn} {w : World} (hNot : selects fromDate toDate key = false)
      (h : Trace s plan start done w) : ∃ more, Trace s plan start (done ++ more) w ∧
        more.map Prod.fst = (if selects fromDate toDate key then
          (IngestSource.create s.rawBucket key none none).toOption.toList else []) ++
            s.selected fromDate toDate [] ∧
        (errors = [] → ∀ run ∈ more, run.2 = .returned ()) :=
    ⟨[], by simpa using h, by simp [hNot, selected], fun _ => nofun⟩
  unfold backfillObject
  by_cases hCsv : endsWithIgnoreCase key ".csv".toList = true
  · rw [if_pos hCsv]
    cases hDate : extractDateFromKey key with
    | none =>
        have hNot : selects fromDate toDate key = false := by rw [selects, hDate]; simp
        exact Triple.bind (fun _ => Trace s plan start done)
          (Triple.modify _ fun w h => h.logLine _) fun _ => Triple.done _ fun w h => hSkip hNot h
    | some keyDate =>
        have hSelects : selects fromDate toDate key = !outsideBounds fromDate toDate keyDate := by
          rw [selects, hCsv, hDate]
          rfl
        cases hOutside : outsideBounds fromDate toDate keyDate with
        | true =>
            rw [hOutside] at hSelects
            simp only [hOutside, if_true]
            exact Triple.done _ fun w h => hSkip hSelects h
        | false =>
            rw [hOutside] at hSelects
            simp only [hOutside, Bool.false_eq_true, if_false]
            rw [hSelects, if_pos (by rfl), show s.selected fromDate toDate [] = [] from rfl,
              List.append_nil]
            refine Triple.bind _ ((attempt_trace _).consequence (fun _ h => h) (fun _ _ h => h)
              (fun _ _ h => h) fun _ ⟨more, hTrace, hSources, _⟩ => ⟨more, hTrace, hSources⟩)
                fun failure => Triple.done _ ?_
            rintro w ⟨more, hTrace, hSources, hNone⟩
            exact ⟨more, hTrace, hSources, fun h => (hNone (by simpa using h)).2⟩
  · rw [if_neg hCsv]
    have hNot : selects fromDate toDate key = false := by
      rw [selects, (Bool.not_eq_true _).mp hCsv, Bool.false_and]
    exact Triple.done _ fun w h => hSkip hNot h

/-- The page loop. -/
theorem backfillObjects_spec (keys : List Str) (processed : Nat) (failures : List Exn) :
    Triple plan (Trace s plan start done) (s.backfillObjects fromDate toDate keys processed failures)
      ⟨fun value w => ∃ more, Trace s plan start (done ++ more) w ∧
          more.map Prod.fst = s.selected fromDate toDate keys ∧
          (value.2 = [] → failures = [] ∧ ∀ run ∈ more, run.2 = .returned ()),
        fun _ _ => False,
        fun w => ∃ more, Trace s plan start (done ++ more) w ∧
          ∀ run ∈ more, run.1 ∈ s.selected fromDate toDate keys⟩ := by
  induction keys generalizing done processed failures with
  | nil => exact Triple.done _ fun w h => ⟨[], by simpa using h, rfl, fun hNone => ⟨hNone, nofun⟩⟩
  | cons key rest ih =>
      have hCons : s.selected fromDate toDate (key :: rest) =
          s.selected fromDate toDate [key] ++ s.selected fromDate toDate rest := by
        rw [selected_cons, selected_cons _ _ _ key []]
        simp [selected]
      refine Triple.bind _ ((backfillObject_spec key).consequence (fun _ h => h) (fun _ _ h => h)
        (fun _ _ h => h.elim) ?_) fun value => ?_
      · rintro w ⟨more, hTrace, hSources⟩
        refine ⟨more, hTrace, fun run hm => ?_⟩
        rw [hCons, ← hSources]
        exact List.mem_append_left _ (List.mem_map.mpr ⟨run, hm, rfl⟩)
      obtain ⟨count, errors⟩ := value
      refine Triple.pointwise fun w hState => ?_
      obtain ⟨first, hTrace, hSources, hErrors⟩ := hState
      refine (ih _ _).consequence (fun _ hEq => hEq ▸ hTrace) ?_ (fun _ _ h => h.elim) ?_
      · rintro value after ⟨more, hTrace, hRest, hNone⟩
        refine ⟨first ++ more, by simpa using hTrace, by simp [hCons, hSources, hRest], fun h => ?_⟩
        obtain ⟨hBoth, hMore⟩ := hNone h
        obtain ⟨hFailures, hNoErrors⟩ := List.append_eq_nil_iff.mp hBoth
        refine ⟨hFailures, fun run hm => ?_⟩
        exact (List.mem_append.mp hm).elim (hErrors hNoErrors run) (hMore run)
      · rintro after ⟨more, hTrace, hRest⟩
        refine ⟨first ++ more, by simpa using hTrace, fun run hm => ?_⟩
        rw [hCons, List.mem_append]
        refine (List.mem_append.mp hm).imp (fun hFirst => ?_) (hRest run)
        rw [← hSources]
        exact List.mem_map.mpr ⟨run, hFirst, rfl⟩

end IngestService

/-- The objects and the next token of a page. -/
def ListObjectsV2Response.served (response : ListObjectsV2Response) : List Str × Option Str :=
  (response.s3Objects.getD [],
    if response.isTruncated = some true then response.nextContinuationToken else none)

/-- A truncated page names a token, and one that is not blank. -/
def ListObjectsV2Response.Linked (response : ListObjectsV2Response) : Prop :=
  response.isTruncated = some true →
    ∃ token, response.nextContinuationToken = some token ∧ isBlank token = false

theorem ListObjectsV2Response.Linked.require {response : ListObjectsV2Response}
    (h : response.Linked) (description : Str) :
    requireContinuationToken response description = .ok response.served.2 := by
  unfold requireContinuationToken served
  by_cases hMore : response.isTruncated = some true
  · obtain ⟨token, hToken, hPresent⟩ := h hMore
    rw [if_neg (not_not.mpr hMore), if_pos hMore, hToken, isNullOrWhiteSpace, hPresent]
    rfl
  · rw [if_pos hMore, if_neg hMore]

theorem ListObjectsV2Response.Linked.token_valid {response : ListObjectsV2Response}
    (h : response.Linked) {token : Str} (hToken : response.served.2 = some token) :
    isBlank token = false := by
  unfold served at hToken
  split_ifs at hToken with hMore
  obtain ⟨token', hToken', hPresent⟩ := h hMore
  cases hToken.symm.trans hToken'
  exact hPresent

/-- The payloads that the page's invocation sends. -/
def continuations (fromDate toDate : Option DateOnly) (response : ListObjectsV2Response) : List Json :=
  response.served.2.toList.map fun token => (continuationRequest fromDate toDate token).serialize

def World.send (w : World) (payloads : List Json) : World :=
  { w with invocations := w.invocations ++ payloads }

theorem World.send_nil (w : World) : w.send [] = w := by
  simp [World.send]

theorem Aside.send {before after : World} (h : Aside before after) (payloads : List Json) :
    Aside (before.send payloads) (after.send payloads) :=
  ⟨⟨h.raw, h.rawListing, h.paging, h.targetListParameter,
    congrArg (· ++ payloads) h.invocations⟩, h.analytics, h.history⟩

/-- The requests that list a page and ask for the next one. -/
def AwsCall.isPaging : AwsCall → Bool
  | listRaw _ | invokeLambda _ => true
  | _ => false

/-- Some listing or scheduling call does not go through. -/
def DisturbsPaging (plan : FaultPlan) : Prop :=
  ∃ request : AwsCall, request.isPaging = true ∧ Disturbs plan request

/-- What one invocation for a page leaves: the next page may have been asked
for, and some of the selected reports have been processed. -/
structure PageRun (s : IngestService) (fromDate toDate : Option DateOnly) (plan : FaultPlan)
    (response : ListObjectsV2Response) (before : World) (sent : List Json) (done : List SourceRun)
    (after : World) : Prop where
  trace : Trace s plan (before.send sent) done after
  sent_next : sent = [] ∨ sent = continuations fromDate toDate response
  selected : ∀ run ∈ done, run.1 ∈ s.selected fromDate toDate response.served.1

/-- The next page has been asked for, and all selected reports have been
processed. -/
structure WholePage (s : IngestService) (fromDate toDate : Option DateOnly) (plan : FaultPlan)
    (response : ListObjectsV2Response) (before : World) (done : List SourceRun)
    (after : World) : Prop where
  trace : Trace s plan (before.send (continuations fromDate toDate response)) done after
  sources : done.map Prod.fst = s.selected fromDate toDate response.served.1

theorem WholePage.invocations {s : IngestService} {fromDate toDate : Option DateOnly}
    {plan : FaultPlan} {response : ListObjectsV2Response} {before after : World}
    {done : List SourceRun} (h : WholePage s fromDate toDate plan response before done after) :
    after.invocations = before.invocations ++ continuations fromDate toDate response :=
  h.trace.frame.invocations

theorem WholePage.pageRun {s : IngestService} {fromDate toDate : Option DateOnly} {plan : FaultPlan}
    {response : ListObjectsV2Response} {before after : World} {done : List SourceRun}
    (h : WholePage s fromDate toDate plan response before done after) :
    PageRun s fromDate toDate plan response before (continuations fromDate toDate response) done
      after := by
  refine ⟨h.trace, Or.inr rfl, fun run hm => ?_⟩
  rw [← h.sources]
  exact List.mem_map.mpr ⟨run, hm, rfl⟩

section Pages

variable {s : IngestService} {fromDate toDate : Option DateOnly} {plan : FaultPlan} {before : World}

theorem scheduleAsync_spec (token : Str) :
    Triple plan (Aside before) (scheduleAsync s.platform fromDate toDate token)
      ⟨fun _ => Aside (before.send [(continuationRequest fromDate toDate token).serialize]),
        fun _ w => DisturbsPaging plan ∧ (Aside before w ∨
          Aside (before.send [(continuationRequest fromDate toDate token).serialize]) w),
        fun w => Aside before w⟩ := by
  refine Triple.catching (fun _ w => DisturbsPaging plan ∧ (Aside before w ∨
    Aside (before.send [(continuationRequest fromDate toDate token).serialize]) w)) ?_ fun _ =>
      Triple.throwing _ fun _ h => h
  refine Triple.call ?_ ?_ ?_ ?_
  · exact fun w h _ _ _ _ => h.send _
  · intro w _ error hError
    cases hError
  · intro w h calls cause applied hFail
    refine ⟨⟨_, rfl, disturbs_of_fail hFail⟩, ?_⟩
    cases applied with
    | false => exact Or.inl h
    | true => exact Or.inr (h.send _)
  · exact fun w h _ _ => h

theorem scheduleNext_spec (response : ListObjectsV2Response) :
    Triple plan (Aside before) (s.scheduleNext fromDate toDate response.served.2)
      ⟨fun _ => Aside (before.send (continuations fromDate toDate response)),
        fun _ w => DisturbsPaging plan ∧
          ∃ sent, (sent = [] ∨ sent = continuations fromDate toDate response) ∧
            Aside (before.send sent) w,
        fun w => Aside before w⟩ := by
  unfold IngestService.scheduleNext continuations
  cases response.served.2 with
  | none =>
      refine Triple.done () fun w h => ?_
      change Aside (before.send []) w
      rwa [before.send_nil]
  | some token =>
      refine (scheduleAsync_spec token).consequence (fun _ h => h) (fun _ _ h => h) ?_ fun _ h => h
      rintro error w ⟨hDisturbs, h | h⟩
      · exact ⟨hDisturbs, [], Or.inl rfl, by rwa [before.send_nil]⟩
      · exact ⟨hDisturbs, _, Or.inr rfl, h⟩

/-- The invocation for one page. If it throws although the listing and the
scheduling went through, it has still walked the whole page. -/
theorem processBackfillAsync_spec (hBounds : BackfillRequest.reversed fromDate toDate = false)
    {token : Option Str} (hLinked : (before.rawListing token).Linked) :
    Triple plan (Aside before) (s.processBackfillAsync fromDate toDate token)
      ⟨fun _ w => ∃ done,
          WholePage s fromDate toDate plan (before.rawListing token) before done w ∧
          ∀ run ∈ done, run.2 = .returned (),
        fun _ w => (∃ done,
            WholePage s fromDate toDate plan (before.rawListing token) before done w) ∨
          DisturbsPaging plan ∧ ∃ sent,
            PageRun s fromDate toDate plan (before.rawListing token) before sent [] w,
        fun w => ∃ sent done,
          PageRun s fromDate toDate plan (before.rawListing token) before sent done w⟩ := by
  have hNothing {w : World} (h : Aside before w) :
      PageRun s fromDate toDate plan (before.rawListing token) before [] [] w :=
    ⟨.begin (by rwa [before.send_nil]), Or.inl rfl, nofun⟩
  unfold IngestService.processBackfillAsync
  rw [if_neg (by rw [hBounds]; nofun)]
  refine Triple.bind (fun _ => Aside before) (Triple.modify _ fun w h => ?_) fun _ => ?_
  · exact ⟨⟨h.raw, h.rawListing, h.paging, h.targetListParameter, h.invocations⟩, h.analytics,
      h.history⟩
  refine Triple.bind (fun response w => response = before.rawListing token ∧ Aside before w) ?_
    fun response => ?_
  · refine Triple.query ?_ ?_ ?_ ?_
    · intro w h value hValue
      cases hValue
      exact ⟨congrFun h.rawListing token, h⟩
    · intro w _ error hError
      cases hError
    · exact fun w h calls cause applied hFail =>
        Or.inr ⟨⟨_, rfl, disturbs_of_fail hFail⟩, [], hNothing h⟩
    · exact fun w h _ _ => ⟨[], [], hNothing h⟩
  refine Triple.assuming (fun _ h => h.1) fun hResponse => ?_
  subst hResponse
  rw [hLinked.require]
  refine Triple.bind (fun next w => next = (before.rawListing token).served.2 ∧ Aside before w)
    (Triple.done _ fun _ h => ⟨rfl, h.2⟩) fun next => ?_
  refine Triple.assuming (fun _ h => h.1) fun hNext => ?_
  subst hNext
  refine Triple.bind _ ((scheduleNext_spec _).consequence (fun _ h => h.2) (fun _ _ h => h) ?_ ?_)
    fun _ => ?_
  · rintro error w ⟨hDisturbs, sent, hSent, h⟩
    exact Or.inr ⟨hDisturbs, sent, .begin h, hSent, nofun⟩
  · exact fun w h => ⟨[], [], hNothing h⟩
  refine Triple.bind _ ((IngestService.backfillObjects_spec _ 0 []).consequence
    (fun _ h => .begin h) (fun _ _ h => h) (fun _ _ h => h.elim) ?_) fun value => ?_
  · rintro w ⟨more, hTrace, hSelected⟩
    exact ⟨_, more, by simpa using hTrace, Or.inr rfl, hSelected⟩
  obtain ⟨processed, failures⟩ := value
  refine Triple.bind (fun _ w => ∃ done,
    WholePage s fromDate toDate plan (before.rawListing token) before done w ∧
      (failures = [] → ∀ run ∈ done, run.2 = .returned ())) ?_ fun _ => ?_
  · refine Triple.modify _ ?_
    rintro w ⟨more, hTrace, hSources, hNone⟩
    exact ⟨more, ⟨(by simpa using hTrace : Trace s plan _ more w).logLine _, hSources⟩,
      fun h => (hNone h).2⟩
  · split_ifs with hFailures
    · exact Triple.throwing _ fun w ⟨done, h, _⟩ => Or.inl ⟨done, h⟩
    · refine Triple.done () fun w ⟨done, h, hNone⟩ => ⟨done, h, hNone ?_⟩
      simpa using hFailures

end Pages

end KiroIngest
