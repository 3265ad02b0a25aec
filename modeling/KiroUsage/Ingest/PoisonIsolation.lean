import KiroUsage.Ingest.Poison

/-! Poison isolation. What a batch or a page leaves in the analytics bucket is
what it would leave without its poison objects, and the invocation throws for a
poison object that it comes to process. -/
namespace KiroIngest

open Text Storage Execution ReportTransform

/-- Two states of the services in which the runs for these sources do the same. -/
structure Alike (s : IngestService) (sources : List IngestSource) (w w' : World) : Prop where
  raw : w'.raw = w.raw
  targetListParameter : w'.targetListParameter = w.targetListParameter
  analytics : ∀ key, w'.analytics.lookup key = w.analytics.lookup key
  target : ∃ targetList, parseTargetList s.platform w.targetListParameter = .ok targetList
  readable : ∀ source ∈ sources, w.Readable source

theorem World.Readable.congr {w w' : World} {source : IngestSource} (h : w.Readable source)
    (hSame : w'.analytics.lookup (stateKey source) = w.analytics.lookup (stateKey source)) :
    w'.Readable source := by
  intro hLive
  rw [savedSequencer_congr hSame]
  exact h hLive

/-- State documents stay readable. -/
theorem Settled.readable {s : IngestService} {source other : IngestSource} {before after : World}
    (h : Settled s source before after) (hReadable : before.Readable other) :
    after.Readable other := by
  rcases h with ⟨_, hAnalytics⟩ | ⟨result, complete, _, _, hReconciled, hAnalytics⟩
  · exact hReadable.congr (by rw [hAnalytics])
  have hComplete : complete.lookup (stateKey other) = before.analytics.lookup (stateKey other) := by
    rw [hReconciled, owned_stateKey]
    rfl
  cases hSequencer : source.sequencer with
  | none =>
      refine hReadable.congr ?_
      rw [hAnalytics, withSequencer, hSequencer]
      exact hComplete
  | some sequencer =>
      by_cases hKey : stateKey other = stateKey source
      · refine fun _ => ⟨some sequencer, savedSequencer_of_lookup ?_, ?_⟩
        · rw [hAnalytics, hKey, lookup_withSequencer_stateKey hSequencer]
        · rintro _ ⟨⟩
          exact hex_of_isSequencer (source.sequencer_valid sequencer hSequencer)
      · exact hReadable.congr (by rw [hAnalytics, lookup_withSequencer hKey, hComplete])

namespace Alike

variable {s : IngestService} {sources : List IngestSource} {w w' after after' : World}

theorem of_frame (h : Alike s sources w w') (hFrame : Frame w after)
    (hAnalytics : after.analytics = w.analytics) : Alike s sources after w' where
  raw := h.raw.trans hFrame.raw.symm
  targetListParameter := h.targetListParameter.trans hFrame.targetListParameter.symm
  analytics := by
    intro key
    rw [hAnalytics]
    exact h.analytics key
  target := by
    rw [hFrame.targetListParameter]
    exact h.target
  readable := fun source hSource => (h.readable source hSource).congr (by rw [hAnalytics])

/-- Runs that settle the same source. -/
theorem settle (h : Alike s sources w w') {source : IngestSource} (hFrame : Frame w after)
    (hFrame' : Frame w' after') (hSettled : Settled s source w after)
    (hSettled' : Settled s source w' after') : Alike s sources after after' where
  raw := by rw [hFrame'.raw, hFrame.raw, h.raw]
  targetListParameter := by
    rw [hFrame'.targetListParameter, hFrame.targetListParameter, h.targetListParameter]
  analytics := by
    intro key
    have hStale : w'.staleEvent source = w.staleEvent source := staleEvent_congr (h.analytics _)
    have hResult := transformed_congr h.raw h.targetListParameter s source
    rcases hSettled with ⟨hSkip, hAnalytics⟩ | ⟨result, complete, hFresh, hOk, hReconciled, hAnalytics⟩
    · rcases hSettled' with ⟨_, hAnalytics'⟩ | ⟨_, _, hFresh', _⟩
      · rw [hAnalytics, hAnalytics', h.analytics key]
      · rw [hStale, hSkip] at hFresh'; cases hFresh'
    · rcases hSettled' with ⟨hSkip', _⟩ | ⟨result', complete', _, hOk', hReconciled', hAnalytics'⟩
      · rw [hStale, hFresh] at hSkip'; cases hSkip'
      · rw [hResult, hOk] at hOk'
        cases hOk'
        have hComplete (key : Str) : complete'.lookup key = complete.lookup key := by
          rw [hReconciled' key, hReconciled key, h.analytics key]
        rw [hAnalytics, hAnalytics']
        by_cases hKey : key = stateKey source
        · subst hKey
          cases hSequencer : source.sequencer with
          | none =>
              unfold withSequencer
              rw [hSequencer]
              exact hComplete _
          | some sequencer =>
              rw [lookup_withSequencer_stateKey hSequencer, lookup_withSequencer_stateKey hSequencer]
        · rw [lookup_withSequencer hKey, lookup_withSequencer hKey, hComplete]
  target := by
    rw [hFrame.targetListParameter]
    exact h.target
  readable := fun other hOther => hSettled.readable (h.readable other hOther)

end Alike

section Turns

variable {s : IngestService} {plan : FaultPlan} {created : Except Exn IngestSource} {calls : Nat}
  {w : World}

/-- The turn of a poison object. It hands over an error unless it skips a stale
event. -/
theorem tryProcess_poison (hPlan : OnlyRawFails plan)
    (hPoison : Poison s plan created calls w) :
    let run := s.tryProcess created plan calls w
    Frame w run.state ∧ run.state.analytics = w.analytics ∧
      ∃ failure, run.outcome = .returned failure ∧
        (failure = none ↔ ∃ source, created = .ok source ∧ w.staleEvent source = .ok true) := by
  intro run
  cases created with
  | error error =>
      refine ⟨Frame.refl w, rfl, some error, rfl, ?_⟩
      constructor
      · exact nofun
      · rintro ⟨_, h, _⟩
        cases h
  | ok source =>
      have hUntouched := processCsvAsync_poison hPlan hPoison
      rcases hUntouched.ends with ⟨hReturned, hStale⟩ | ⟨⟨error, hThrew⟩, hFresh⟩
      · rw [show run = _ from Async.attempt_of_returned hReturned]
        exact ⟨hUntouched.toFrame, hUntouched.analytics, none, rfl, fun _ => ⟨source, rfl, hStale⟩,
          fun _ => rfl⟩
      · rw [show run = _ from Async.attempt_of_threw hThrew]
        refine ⟨hUntouched.toFrame, hUntouched.analytics, some error, rfl, nofun, ?_⟩
        rintro ⟨_, hCreated, hStale⟩
        cases hCreated
        exact absurd hStale hFresh

/-- The turn of any other object. -/
theorem tryProcess_settles {targetList : Str → Bool} (hPlan : OnlyRawFails plan)
    (hTarget : parseTargetList s.platform w.targetListParameter = .ok targetList)
    (hReadable : ∀ source, created = .ok source → w.Readable source)
    (hGood : ¬Poison s plan created calls w) :
    let run := s.tryProcess created plan calls w
    run.outcome = .returned none ∧ Frame w run.state ∧
      ∃ source, created = .ok source ∧ Settled s source w run.state := by
  intro run
  cases created with
  | error error => exact absurd (.malformed error rfl) hGood
  | ok source =>
      obtain ⟨hReturned, hFrame, hSettled⟩ :=
        processCsvAsync_settles hPlan hTarget (hReadable source rfl) hGood
      rw [show run = _ from Async.attempt_of_returned hReturned]
      exact ⟨rfl, hFrame, source, rfl, hSettled⟩

/-- Where no call fails, only what the services hold makes an object poison. -/
theorem not_poison_healthy {sources : List IngestSource} {w' : World} {calls' : Nat}
    (h : Alike s sources w w') (hGood : ¬Poison s plan created calls w) :
    ¬Poison s Plan.healthy created calls' w' := by
  have hRead (source : IngestSource) :
      w'.readRaw source.bucket source.key source.versionId =
        w.readRaw source.bucket source.key source.versionId := by
    unfold World.readRaw
    rw [h.raw]
  intro hPoison
  cases hPoison with
  | malformed error hCreated => exact hGood (.malformed error hCreated)
  | unread source cause applied _ hFault => cases hFault
  | missing source error hCreated hMissing =>
      exact hGood (.missing source error hCreated ((hRead source).symm.trans hMissing))
  | rejected source csv targetList error hCreated hCsv hTarget hRejected =>
      rw [h.targetListParameter] at hTarget
      exact hGood (.rejected source csv targetList error hCreated ((hRead source).symm.trans hCsv)
        hTarget hRejected)

/-- Both runs take the turn of an object that is not poison. -/
theorem Alike.tryProcess {sources : List IngestSource} {w' : World} (calls' : Nat)
    (h : Alike s sources w w') (hPlan : OnlyRawFails plan)
    (hSource : ∀ source, created = .ok source → source ∈ sources)
    (hGood : ¬Poison s plan created calls w) :
    let run := s.tryProcess created plan calls w
    let run' := s.tryProcess created Plan.healthy calls' w'
    run.outcome = .returned none ∧ run'.outcome = .returned none ∧
      Alike s sources run.state run'.state := by
  obtain ⟨targetList, hTarget⟩ := h.target
  obtain ⟨hReturned, hFrame, source, rfl, hSettled⟩ := tryProcess_settles hPlan hTarget
    (fun source hCreated => h.readable source (hSource source hCreated)) hGood
  have hGood' : ¬Poison s Plan.healthy (.ok source) calls' w' := not_poison_healthy h hGood
  obtain ⟨hReturned', hFrame', source', hSame, hSettled'⟩ :=
    tryProcess_settles onlyRawFails_healthy (h.targetListParameter ▸ hTarget)
      (fun source hCreated => (h.readable source (hSource source hCreated)).congr (h.analytics _))
      hGood'
  cases hSame
  exact ⟨hReturned, hReturned', h.settle hFrame hFrame' hSettled hSettled'⟩

end Turns

section Loops

variable {Item Out : Type}

/-- What both loops do with an item. If it is poison nothing changes, and it may
give errors. Otherwise it gives none, and two runs stay alike. -/
structure Isolating (s : IngestService) (plan : FaultPlan) (sources : List IngestSource)
    (body : Item → Ingest Out) (errors : Out → List Exn) (items : List Item)
    (poison : Item → Nat → World → Prop) (throws : Item → World → Prop) : Prop where
  untouched : ∀ item calls w w', Alike s sources w w' → poison item calls w →
    let run := body item plan calls w
    Alike s sources run.state w' ∧
      ∃ out, run.outcome = .returned out ∧ (errors out ≠ [] ↔ throws item w)
  settles : ∀ item ∈ items, ∀ calls w calls' w', Alike s sources w w' → ¬poison item calls w →
    let run := body item plan calls w
    let run' := body item Plan.healthy calls' w'
    (∃ out, run.outcome = .returned out ∧ errors out = []) ∧
      (∃ out, run'.outcome = .returned out ∧ errors out = []) ∧ Alike s sources run.state run'.state

variable {s : IngestService} {plan : FaultPlan} {sources : List IngestSource}
  {body : Item → Ingest Out} {errors : Out → List Exn} {poison : Item → Nat → World → Prop}
  {throws : Item → World → Prop} {marked : List (Item × Bool)} {calls : Nat} {w : World}

/-- The items that are not marked. -/
def kept (marked : List (Item × Bool)) : List Item :=
  (marked.filter fun entry => !entry.2).map Prod.fst

/-- The two runs end alike. -/
theorem Isolating.alike {w' : World} (calls' : Nat)
    (h : Isolating s plan sources body errors (marked.map Prod.fst) poison throws)
    (hAlike : Alike s sources w w')
    (hMarks : ∀ before item removed after, marked = before ++ (item, removed) :: after →
      let turn := Async.collect body (before.map Prod.fst) plan calls w
      removed = true ↔ poison item turn.calls turn.state) :
    let run := Async.collect body (marked.map Prod.fst) plan calls w
    let run' := Async.collect body (kept marked) Plan.healthy calls' w'
    (∃ outs, run.outcome = .returned outs) ∧ (∃ outs, run'.outcome = .returned outs) ∧
      Alike s sources run.state run'.state := by
  refine Async.collect_simulates marked hAlike fun before item removed after hSplit => ?_
  intro turn run calls' turn' hTurn
  have hMark := hMarks before item removed after hSplit
  cases removed with
  | true =>
      obtain ⟨hAfter, out, hOut, _⟩ := h.untouched item _ _ _ hTurn (hMark.mp rfl)
      exact ⟨⟨out, hOut⟩, hAfter⟩
  | false =>
      have hItem : item ∈ marked.map Prod.fst := by rw [hSplit]; simp
      have hGood : ¬poison item turn.calls turn.state := fun hPoison => by cases hMark.mpr hPoison
      obtain ⟨⟨out, hOut, _⟩, ⟨out', hOut', _⟩, hAfter⟩ := h.settles item hItem _ _ calls' _ hTurn hGood
      exact ⟨⟨out, hOut⟩, ⟨out', hOut'⟩, hAfter⟩

/-- Errors come from poison items, at their turns. -/
theorem Isolating.errors_iff
    (h : Isolating s plan sources body errors (marked.map Prod.fst) poison throws)
    (hAlike : Alike s sources w w)
    (hMarks : ∀ before item removed after, marked = before ++ (item, removed) :: after →
      let turn := Async.collect body (before.map Prod.fst) plan calls w
      removed = true ↔ poison item turn.calls turn.state)
    {outs : List Out}
    (hOuts : (Async.collect body (marked.map Prod.fst) plan calls w).outcome = .returned outs) :
    outs.flatMap errors ≠ [] ↔ ∃ before item after, marked = before ++ (item, true) :: after ∧
      throws item (Async.collect body (before.map Prod.fst) plan calls w).state := by
  have hTurn {before after : List (Item × Bool)} (hSplit : marked = before ++ after) :
      ∃ w', Alike s sources (Async.collect body (before.map Prod.fst) plan calls w).state w' := by
    have hBefore : Isolating s plan sources body errors (before.map Prod.fst) poison throws :=
      ⟨h.untouched, fun item hItem => h.settles item (by rw [hSplit]; simp_all)⟩
    obtain ⟨_, _, hAfter⟩ := hBefore.alike 0 hAlike fun before' item removed after' hBefore' =>
      hMarks before' item removed (after' ++ after) (by rw [hSplit, hBefore']; simp)
    exact ⟨_, hAfter⟩
  have hErrors : outs.flatMap errors ≠ [] ↔ ∃ out ∈ outs, errors out ≠ [] := by
    simp [List.flatMap_eq_nil_iff]
  rw [hErrors]
  constructor
  · rintro ⟨out, hOut, hError⟩
    obtain ⟨before, item, after, hSplit, hGiven⟩ := (Async.mem_collect hOuts).mp hOut
    obtain ⟨before', rest, rfl, rfl, hRest⟩ := List.map_eq_append_iff.mp hSplit
    obtain ⟨entry, after', rfl, rfl, rfl⟩ := List.map_eq_cons_iff.mp hRest
    obtain ⟨item, removed⟩ := entry
    obtain ⟨w', hAlike'⟩ := hTurn rfl
    cases removed with
    | true =>
        obtain ⟨_, out', hOut', hThrows⟩ :=
          h.untouched item _ _ _ hAlike' ((hMarks before' item true after' rfl).mp rfl)
        cases hGiven.symm.trans hOut'
        exact ⟨before', item, after', rfl, hThrows.mp hError⟩
    | false =>
        obtain ⟨⟨out', hOut', hNone⟩, _⟩ := h.settles item (by simp) _ _ 0 _ hAlike' fun hPoison => by
          cases (hMarks before' item false after' rfl).mpr hPoison
        cases hGiven.symm.trans hOut'
        exact absurd hNone hError
  · rintro ⟨before, item, after, hSplit, hThrows⟩
    obtain ⟨w', hAlike'⟩ := hTurn hSplit
    obtain ⟨_, out, hOut, hIff⟩ :=
      h.untouched item _ _ _ hAlike' ((hMarks before item true after hSplit).mp rfl)
    refine ⟨out, (Async.mem_collect hOuts).mpr ?_, hIff.mpr hThrows⟩
    exact ⟨before.map Prod.fst, item, after.map Prod.fst, by rw [hSplit]; simp, hOut⟩

end Loops

namespace Function

variable (f : Function) (plan : FaultPlan) (calls : Nat) (w : World)

/-- The turn of a record: the loop has handled the records before it. -/
def turn (before : List S3Record) : Result World Exn (List Exn) :=
  f.handleRecords before [] plan calls w

/-- Exactly the poison records are marked. -/
def Marks (marked : List (S3Record × Bool)) : Prop :=
  ∀ before record poison after, marked = before ++ (record, poison) :: after →
    let turn := f.turn plan calls w (before.map Prod.fst)
    poison = true ↔
      Poison f.ingest plan (record.source f.ingest.platform) turn.calls turn.state

/-- In every run some records are the poison ones. -/
theorem exists_marks (records : List S3Record) :
    ∃ marked, marked.map Prod.fst = records ∧ f.Marks plan calls w marked :=
  Async.exists_marked (fun before (record : S3Record) =>
    Poison f.ingest plan (record.source f.ingest.platform) (f.turn plan calls w before).calls
      (f.turn plan calls w before).state) records

variable {f plan calls w}

theorem turn_eq (before : List S3Record) :
    let turn := Async.collect f.handleRecord before plan calls w
    (f.turn plan calls w before).calls = turn.calls ∧ (f.turn plan calls w before).state = turn.state := by
  unfold turn
  rw [handleRecords_eq]
  exact Async.andThen_done _ _

theorem isolating (hPlan : OnlyRawFails plan) (records : List S3Record) :
    Isolating f.ingest plan (f.sources records) f.handleRecord Option.toList records
      (fun record => Poison f.ingest plan (record.source f.ingest.platform))
      fun record w => (∃ error, record.source f.ingest.platform = .error error) ∨
        ∃ source, record.source f.ingest.platform = .ok source ∧ w.staleEvent source ≠ .ok true where
  untouched := by
    intro record calls w w' hAlike hPoison
    obtain ⟨hFrame, hAnalytics, failure, hOutcome, hNone⟩ := tryProcess_poison hPlan hPoison
    refine ⟨hAlike.of_frame hFrame hAnalytics, failure, hOutcome, ?_⟩
    have hErrors : failure.toList ≠ [] ↔ failure ≠ none := by cases failure <;> simp
    rw [hErrors, Ne, hNone]
    cases record.source f.ingest.platform with
    | error error => simp
    | ok source => simp
  settles := by
    intro record hRecord calls w calls' w' hAlike hGood
    have hSource (source : IngestSource) (hMade : record.source f.ingest.platform = .ok source) :
        source ∈ f.sources records :=
      List.mem_filterMap.mpr ⟨record, hRecord, by rw [hMade]; rfl⟩
    obtain ⟨hOutcome, hOutcome', hAfter⟩ := hAlike.tryProcess calls' hPlan hSource hGood
    exact ⟨⟨none, hOutcome, rfl⟩, ⟨none, hOutcome', rfl⟩, hAfter⟩

/-- A batch. -/
theorem batch_isolated (hPlan : OnlyRawFails plan) {targetList : Str → Bool}
    (hTarget : parseTargetList f.ingest.platform w.targetListParameter = .ok targetList)
    {marked : List (S3Record × Bool)}
    (hReadable : ∀ source ∈ f.sources (marked.map Prod.fst), w.Readable source)
    (hMarks : f.Marks plan calls w marked) (calls' : Nat) :
    let run := f.handleS3EventAsync (some (marked.map Prod.fst)) plan calls w
    let clean := f.handleS3EventAsync (some (kept marked)) Plan.healthy calls' w
    (∀ key, run.state.analytics.lookup key = clean.state.analytics.lookup key) ∧
      ((∃ error, run.outcome = .threw error) ↔
        ∃ before record after, marked = before ++ (record, true) :: after ∧
          ((∃ error, record.source f.ingest.platform = .error error) ∨
            ∃ source, record.source f.ingest.platform = .ok source ∧
              (f.turn plan calls w (before.map Prod.fst)).state.staleEvent source ≠ .ok true)) := by
  have hAlike : Alike f.ingest (f.sources (marked.map Prod.fst)) w w :=
    ⟨rfl, rfl, fun _ => rfl, ⟨targetList, hTarget⟩, hReadable⟩
  have hIsolating := f.isolating hPlan (marked.map Prod.fst)
  have hMarks' : ∀ before record removed after, marked = before ++ (record, removed) :: after →
      let turn := Async.collect f.handleRecord (before.map Prod.fst) plan calls w
      removed = true ↔
        Poison f.ingest plan (record.source f.ingest.platform) turn.calls turn.state := by
    intro before record removed after hSplit turn
    have hMark := hMarks before record removed after hSplit
    dsimp only at hMark
    rwa [(turn_eq _).1, (turn_eq _).2] at hMark
  obtain ⟨⟨outs, hOuts⟩, ⟨outs', hOuts'⟩, hAfter⟩ := hIsolating.alike calls' hAlike hMarks'
  obtain ⟨hState, hThrows⟩ := handleS3EventAsync_ends hOuts
  obtain ⟨hState', _⟩ := handleS3EventAsync_ends hOuts'
  refine ⟨fun key => ?_, ?_⟩
  · rw [hState, hState', hAfter.analytics key]
  · rw [hThrows, hIsolating.errors_iff hAlike hMarks' hOuts]
    simp only [(turn_eq _).2]

end Function

end KiroIngest
