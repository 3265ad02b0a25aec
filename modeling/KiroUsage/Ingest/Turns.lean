import KiroUsage.Ingest.Invocations
import KiroUsage.Ingest.RawReads
import KiroUsage.Semantics.Loops

/-! The two loops of the function, turn by turn: the records of an event and the
keys of a page. Each turn hands over its errors and lets the loop go on. -/
namespace KiroIngest

open Text Storage Execution

/-- One turn of either loop: the source is made, if it can be, and processed,
and the error is handed over. -/
def IngestService.tryProcess (s : IngestService) (created : Except Exn IngestSource) :
    Ingest (Option Exn) :=
  Async.attempt do
    let source ← Async.ofExcept created
    s.processCsvAsync source

namespace Function

variable {f : Function} {plan : FaultPlan} {calls : Nat} {w : World}

variable (f) in
/-- One turn of the record loop. -/
def handleRecord (record : S3Record) : Ingest (Option Exn) :=
  f.ingest.tryProcess (record.source f.ingest.platform)

variable (f) in
theorem handleRecords_eq (records : List S3Record) (failures : List Exn) :
    f.handleRecords records failures =
      Async.andThen (Async.collect f.handleRecord records) fun outs =>
        Async.done (failures ++ outs.flatMap Option.toList) := by
  induction records generalizing failures with
  | nil =>
      change Async.done failures = Async.done (failures ++ [])
      rw [List.append_nil]
  | cons record rest ih =>
      unfold handleRecords Async.collect
      rw [Async.andThen_assoc]
      change Async.andThen (f.handleRecord record) _ = _
      congr 1
      funext failure
      rw [ih, Async.andThen_assoc]
      congr 1
      funext outs
      change Async.done _ = Async.done _
      rw [List.append_assoc]
      cases failure <;> rfl

/-- How an invocation for an event ends. -/
theorem handleS3EventAsync_ends {records : List S3Record} {outs : List (Option Exn)}
    (h : (Async.collect f.handleRecord records plan calls w).outcome = .returned outs) :
    let run := f.handleS3EventAsync (some records) plan calls w
    run.state = (Async.collect f.handleRecord records plan calls w).state ∧
      ((∃ error, run.outcome = .threw error) ↔ outs.flatMap Option.toList ≠ []) := by
  intro run
  let loop := Async.collect f.handleRecord records plan calls w
  have hRun : run = (if (outs.flatMap Option.toList).length > 0 then
      Async.throwing (.aggregate "One or more S3 event records failed".toList
        (outs.flatMap Option.toList)) else pure () : Ingest Unit) plan loop.calls loop.state := by
    change Async.andThen (f.handleRecords records []) _ plan calls w = _
    rw [handleRecords_eq, Async.andThen_assoc, Async.andThen_of_returned h]
    rfl
  rw [hRun]
  split_ifs with hFailures
  · exact ⟨rfl, fun _ => List.length_pos_iff.mp hFailures, fun _ => ⟨_, rfl⟩⟩
  · refine ⟨rfl, ?_, fun h => absurd (List.length_pos_iff.mpr h) hFailures⟩
    rintro ⟨_, h⟩
    cases h

end Function

/-- A report whose key has no valid date. -/
def dateless (key : Str) : Bool :=
  endsWithIgnoreCase key ".csv".toList && (extractDateFromKey key).isNone

namespace IngestService

variable (s : IngestService) (fromDate toDate : Option DateOnly) (continuationToken : Option Str)

/-- An invocation for a page, up to its loop: the keys of the page and the token
of the next one. -/
def openPage : Ingest (List Str × Option Str) := do
  logLine (.backfillPageStarted s.rawBucket s.rawPrefix fromDate toDate continuationToken)
  let response ← awsQuery (.listRaw continuationToken) fun w => .ok (w.rawListing continuationToken)
  let nextContinuationToken ← Async.ofExcept
    (requireContinuationToken response "backfill page".toList)
  s.scheduleNext fromDate toDate nextContinuationToken
  return (response.s3Objects.getD [], nextContinuationToken)

/-- An invocation for a page after its loop. -/
def closePage (nextContinuationToken : Option Str) (processed : Nat) (failures : List Exn) :
    Ingest Unit := do
  logLine (.backfillPageComplete processed failures.length nextContinuationToken.isSome)
  if failures.length > 0 then
    Async.throwing (.aggregate ("Backfill failed for ".toList ++
      (toString failures.length).toList ++ " object(s)".toList) failures)
  else pure ()

theorem backfillObjects_eq (keys : List Str) (processed : Nat) (failures : List Exn) :
    s.backfillObjects fromDate toDate keys processed failures =
      Async.andThen (Async.collect (s.backfillObject fromDate toDate) keys) fun outs =>
        Async.done (processed + (outs.map Prod.fst).sum, failures ++ outs.flatMap Prod.snd) := by
  induction keys generalizing processed failures with
  | nil =>
      change Async.done (processed, failures) = Async.done (processed + 0, failures ++ [])
      rw [List.append_nil, Nat.add_zero]
  | cons key rest ih =>
      unfold backfillObjects Async.collect
      rw [Async.andThen_assoc]
      change Async.andThen (s.backfillObject fromDate toDate key) _ = _
      congr 1
      funext out
      obtain ⟨count, errors⟩ := out
      rw [Async.andThen_assoc]
      change s.backfillObjects fromDate toDate rest _ _ = _
      rw [ih]
      congr 1
      funext outs
      change Async.done _ = Async.done _
      simp [Nat.add_assoc]

theorem processBackfillAsync_eq (h : BackfillRequest.reversed fromDate toDate = false) :
    s.processBackfillAsync fromDate toDate continuationToken =
      Async.andThen (s.openPage fromDate toDate continuationToken) fun page =>
        Async.andThen (Async.collect (s.backfillObject fromDate toDate) page.1) fun outs =>
          closePage page.2 (outs.map Prod.fst).sum (outs.flatMap Prod.snd) := by
  unfold processBackfillAsync openPage
  rw [if_neg (by rw [h]; nofun)]
  change Async.andThen _ _ = Async.andThen (Async.andThen _ _) _
  rw [Async.andThen_assoc]
  congr 1
  funext _
  change Async.andThen _ _ = Async.andThen (Async.andThen _ _) _
  rw [Async.andThen_assoc]
  congr 1
  funext response
  change Async.andThen _ _ = Async.andThen (Async.andThen _ _) _
  rw [Async.andThen_assoc]
  congr 1
  funext next
  change Async.andThen _ _ = Async.andThen (Async.andThen _ _) _
  rw [Async.andThen_assoc]
  congr 1
  funext _
  change Async.andThen (s.backfillObjects fromDate toDate (response.s3Objects.getD []) 0 []) _ =
    Async.andThen (Async.collect (s.backfillObject fromDate toDate) (response.s3Objects.getD [])) _
  rw [backfillObjects_eq, Async.andThen_assoc]
  congr 1
  funext outs
  change closePage next _ _ = closePage next _ _
  rw [Nat.zero_add, List.nil_append]

variable {s fromDate toDate continuationToken} {plan : FaultPlan} {calls : Nat} {w : World}

/-- Opening a page asks for no raw object. -/
theorem openPage_rawFree : RawFree (s.openPage fromDate toDate continuationToken) := by
  refine Async.Within.bind (Async.Within.modify _) fun _ =>
    Async.Within.bind (aws_rawFree _ rfl) fun response =>
      Async.Within.bind (Async.Within.ofExcept _) fun next => Async.Within.bind ?_ fun _ =>
        Async.Within.done _
  unfold scheduleNext
  cases next with
  | none => exact Async.Within.done ()
  | some token =>
      refine Async.Within.catching ?_ fun _ => Async.Within.throwing _
      unfold awsUpdate
      exact aws_rawFree _ rfl

theorem scheduleNext_healthy {response : ListObjectsV2Response} :
    Triple Plan.healthy (Aside w) (s.scheduleNext fromDate toDate response.served.2)
      ⟨fun _ => Aside (w.send (continuations fromDate toDate response)), fun _ _ => False,
        fun _ => False⟩ := by
  intro calls after h
  unfold scheduleNext continuations
  cases response.served.2 with
  | none =>
      change Aside (w.send []) after
      rwa [w.send_nil]
  | some token => exact h.send _

variable (s fromDate toDate calls) in
/-- A page whose listing is served is opened, and nothing is processed by that. -/
theorem openPage_returned (hPlan : OnlyRawFails plan)
    (hLinked : (w.rawListing continuationToken).Linked) :
    let run := s.openPage fromDate toDate continuationToken plan calls w
    run.outcome = .returned (w.rawListing continuationToken).served ∧
      Aside (w.send (continuations fromDate toDate (w.rawListing continuationToken))) run.state := by
  have hHealthy : s.openPage fromDate toDate continuationToken plan =
      s.openPage fromDate toDate continuationToken Plan.healthy := by
    refine openPage_rawFree plan Plan.healthy fun n request hOther => ?_
    refine (hPlan n request).resolve_right fun ⟨hRead, _⟩ => ?_
    rw [hOther] at hRead
    cases hRead
  intro run
  rw [show run = _ from congrFun (congrFun hHealthy calls) w]
  have hTriple : Triple Plan.healthy (· = w) (s.openPage fromDate toDate continuationToken)
      ⟨fun page after => page = (w.rawListing continuationToken).served ∧
          Aside (w.send (continuations fromDate toDate (w.rawListing continuationToken))) after,
        fun _ _ => False, fun _ => False⟩ := by
    refine Triple.bind (fun _ => Aside w) (Triple.modify _ fun after h => ?_) fun _ => ?_
    · rw [h]
      exact aside_logLine w _
    refine Triple.bind (fun response after => response = w.rawListing continuationToken ∧
      Aside w after) ?_ fun response => ?_
    · exact fun calls after h => ⟨congrFun h.rawListing continuationToken, h⟩
    refine Triple.assuming (fun _ h => h.1) fun hResponse => ?_
    subst hResponse
    rw [hLinked.require]
    refine Triple.bind (fun next after => next = (w.rawListing continuationToken).served.2 ∧
      Aside w after) (Triple.done _ fun _ h => ⟨rfl, h.2⟩) fun next => ?_
    refine Triple.assuming (fun _ h => h.1) fun hNext => ?_
    subst hNext
    exact Triple.bind _ (scheduleNext_healthy.strengthen fun _ h => h.2) fun _ =>
      Triple.done _ fun _ h => ⟨rfl, h⟩
  obtain ⟨page, hOutcome, hPage, hAside⟩ := hTriple.returns calls
  exact ⟨hPage ▸ hOutcome, hAside⟩

/-- One turn of the page loop, by the kind of the key. -/
theorem backfillObject_cases (key : Str) :
    (dateless key = true ∧ ∀ plan calls w, ∃ event, s.backfillObject fromDate toDate key plan calls w =
      ⟨.returned (0, [invalidKeyError key]), calls, { w with log := w.log ++ [event] }⟩) ∨
    (dateless key = false ∧ selects fromDate toDate key = false ∧ ∀ plan calls w,
      s.backfillObject fromDate toDate key plan calls w = ⟨.returned (0, []), calls, w⟩) ∨
    (dateless key = false ∧ selects fromDate toDate key = true ∧ ∀ plan calls w failure,
      let run := s.tryProcess (IngestSource.create s.rawBucket key none none) plan calls w
      run.outcome = .returned failure → s.backfillObject fromDate toDate key plan calls w =
        ⟨.returned (1, failure.toList), run.calls, run.state⟩) := by
  unfold backfillObject dateless selects
  cases hCsv : endsWithIgnoreCase key ".csv".toList with
  | false => exact Or.inr (Or.inl ⟨rfl, rfl, fun _ _ _ => rfl⟩)
  | true =>
      rw [if_pos rfl]
      cases hDate : extractDateFromKey key with
      | none => exact Or.inl ⟨rfl, fun _ _ _ => ⟨_, rfl⟩⟩
      | some keyDate =>
          dsimp only
          cases hOutside : outsideBounds fromDate toDate keyDate with
          | true => exact Or.inr (Or.inl ⟨rfl, by simp [hOutside], fun _ _ _ => rfl⟩)
          | false =>
              refine Or.inr (Or.inr ⟨rfl, by simp [hOutside], fun plan calls w failure h => ?_⟩)
              exact Async.andThen_of_returned h

theorem closePage_ends (next : Option Str) (processed : Nat) (failures : List Exn) (plan : FaultPlan)
    (calls : Nat) (w : World) :
    let run := closePage next processed failures plan calls w
    Aside w run.state ∧ ((∃ error, run.outcome = .threw error) ↔ failures ≠ []) := by
  unfold closePage
  by_cases hFailures : failures.length > 0
  · simp only [if_pos hFailures]
    exact ⟨aside_logLine w _, fun _ => List.length_pos_iff.mp hFailures, fun _ => ⟨_, rfl⟩⟩
  · simp only [if_neg hFailures]
    refine ⟨aside_logLine w _, ?_, fun h => absurd (List.length_pos_iff.mpr h) hFailures⟩
    rintro ⟨_, h⟩
    cases h

/-- How an invocation for a page ends. -/
theorem processBackfillAsync_ends (hBounds : BackfillRequest.reversed fromDate toDate = false)
    {keys : List Str} {next : Option Str}
    (hOpen : (s.openPage fromDate toDate continuationToken plan calls w).outcome =
      .returned (keys, next))
    {outs : List (Nat × List Exn)}
    (h : let opened := s.openPage fromDate toDate continuationToken plan calls w
      (Async.collect (s.backfillObject fromDate toDate) keys plan opened.calls opened.state).outcome =
        .returned outs) :
    let opened := s.openPage fromDate toDate continuationToken plan calls w
    let run := s.processBackfillAsync fromDate toDate continuationToken plan calls w
    Aside (Async.collect (s.backfillObject fromDate toDate) keys plan opened.calls
      opened.state).state run.state ∧
      ((∃ error, run.outcome = .threw error) ↔ outs.flatMap Prod.snd ≠ []) := by
  intro opened run
  let loop := Async.collect (s.backfillObject fromDate toDate) keys plan opened.calls opened.state
  have hRun : run = closePage next (outs.map Prod.fst).sum (outs.flatMap Prod.snd) plan loop.calls
      loop.state := by
    rw [show run = _ from congrFun (congrFun (congrFun (s.processBackfillAsync_eq fromDate toDate
      continuationToken hBounds) plan) calls) w, Async.andThen_of_returned hOpen,
      Async.andThen_of_returned h]
  rw [hRun]
  exact closePage_ends next _ _ plan loop.calls loop.state

end IngestService

end KiroIngest
