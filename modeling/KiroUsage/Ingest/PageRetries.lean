import KiroUsage.Ingest.Coverage
import KiroUsage.Ingest.Poison
import KiroUsage.Semantics.Redelivery

/-! How often the pages of a backfill are walked. Every attempt of an invocation
for a page asks for the next page before it walks its own, also an attempt that
then throws and is repeated. -/
namespace KiroIngest

open Text Storage Execution

/-- The `MaximumRetryAttempts` of the function's asynchronous invocations. -/
def maximumRetryAttempts : Nat := 2

/-- All calls succeed but the reads of unreadable objects, which always fail. -/
def AlwaysFails (unreadable : Str → Bool) (plan : FaultPlan) : Prop :=
  ∀ n (request : AwsCall), match request with
    | .getRaw _ key _ =>
      if unreadable key then ∃ cause applied, plan n request = .fail cause applied
      else plan n request = .pass
    | _ => plan n request = .pass

/-- The object of a key makes every attempt of its page fail: its key has no
date, or it is within the bounds and cannot be read or is refused. -/
def IngestService.alwaysFails (s : IngestService) (fromDate toDate : Option DateOnly)
    (unreadable : Str → Bool) (w : World) (key : Str) : Bool :=
  dateless key || (selects fromDate toDate key && (unreadable key ||
    match IngestSource.create s.rawBucket key none none with
    | .ok source => (s.transformed source w).toOption.isNone
    | .error _ => true))

/-- A page with such an object. -/
def IngestService.pageFails (s : IngestService) (fromDate toDate : Option DateOnly)
    (unreadable : Str → Bool) (w : World) (continuationToken : Option Str) : Bool :=
  (w.rawListing continuationToken).served.1.any (s.alwaysFails fromDate toDate unreadable w)

/-- The page that a payload is for. -/
def pageToken (payload : Json) : Option Str :=
  match BackfillRequest.deserialize payload with
  | .ok (some request) => request.continuationToken
  | _ => none

/-- The asynchronous invocations of one backfill. An invocation that throws is
attempted again. -/
def retrying (f : Function) (unreadable : Str → Bool) (start : World) :
    Redelivery World Json (Option Str) where
  initial := (· = start)
  sent := World.invocations
  attempt := fun w payload failed after => ∃ plan paging, AlwaysFails unreadable plan ∧
    let run := f.handleAsync payload plan 0 { w with paging }
    (failed = true ↔ ∃ error, run.outcome = .threw error) ∧ after = run.state
  name := pageToken
  maximum := 1 + maximumRetryAttempts

section Page

variable {s : IngestService} {fromDate toDate : Option DateOnly} {unreadable : Str → Bool}
  {plan : FaultPlan} {calls : Nat} {w : World}

theorem AlwaysFails.onlyRawFails (h : AlwaysFails unreadable plan) : OnlyRawFails plan := by
  intro n request
  have hPlan := h n request
  cases request with
  | getRaw bucket key versionId =>
      dsimp only at hPlan
      split_ifs at hPlan
      · exact Or.inr ⟨rfl, hPlan⟩
      · exact Or.inl hPlan
  | getState => exact Or.inl hPlan
  | getParameter => exact Or.inl hPlan
  | listAnalytics => exact Or.inl hPlan
  | putObject => exact Or.inl hPlan
  | deleteObject => exact Or.inl hPlan
  | listRaw => exact Or.inl hPlan
  | invokeLambda => exact Or.inl hPlan

theorem key_of_create {bucket key : Str} {versionId sequencer : Option Str} {source : IngestSource}
    (h : IngestSource.create bucket key versionId sequencer = .ok source) : source.key = key := by
  unfold IngestSource.create at h
  split_ifs at h
  · cases h
    rfl

variable (s calls w) in
/-- A run of a backfill for one object. -/
theorem processCsvAsync_always {source : IngestSource} (hPlan : AlwaysFails unreadable plan)
    (hBackfill : source.sequencer = none) :
    let run := s.processCsvAsync source plan calls w
    Frame w run.state ∧
      ((run.outcome = .returned () ∧ unreadable source.key = false ∧
          (s.transformed source w).toOption.isNone = false) ∨
        ((∃ error, run.outcome = .threw error) ∧
          (unreadable source.key = true ∨ (s.transformed source w).toOption.isNone = true))) := by
  have hOther (n : Nat) (request : AwsCall) (h : request.isRawRead = false) :
      plan n request = .pass := by
    refine (hPlan.onlyRawFails n request).resolve_right fun ⟨hRead, _⟩ => ?_
    rw [h] at hRead
    cases hRead
  have hRead : if unreadable source.key = true then
      ∃ cause applied, source.rawFault plan calls = .fail cause applied
      else source.rawFault plan calls = .pass :=
    hPlan _ (.getRaw source.bucket source.key source.versionId)
  intro run
  split_ifs at hRead with hUnreadable
  · obtain ⟨cause, applied, hFail⟩ := hRead
    have hAgrees : run = s.processCsvAsync source (rawReadsFail cause applied) calls w :=
      s.processCsvAsync_agrees source (fun n request h => by simp [hOther n request h, rawReadsFail, h])
        hFail
    rw [hAgrees]
    have hUntouched : let run := s.processCsvAsync source (rawReadsFail cause applied) calls w
        Untouched source w run.outcome run.state := processCsvAsync_unread cause applied
    refine ⟨hUntouched.toFrame, Or.inr ⟨?_, Or.inl hUnreadable⟩⟩
    rcases hUntouched.ends with ⟨_, hStale⟩ | ⟨hThrew, _⟩
    · cases (staleEvent_of_backfill hBackfill w).symm.trans hStale
    · exact hThrew
  · have hAgrees : run = s.processCsvAsync source Plan.healthy calls w :=
      s.processCsvAsync_agrees source hOther hRead
    rw [hAgrees]
    have hAlive := (s.processCsvAsync_effect source Plan.healthy calls w).2.ne_killed
    obtain ⟨hFrame, ⟨_, hSkip, _⟩ | ⟨hOutcome, _, hCause⟩ | ⟨_, _, hOutcome, _, hResult, _, _⟩⟩ :=
      s.processCsvAsync_healthy source calls w
    · cases (staleEvent_of_backfill hBackfill w).symm.trans hSkip
    · refine ⟨hFrame, Or.inr ⟨?_, Or.inr ?_⟩⟩
      · cases hEnd : (s.processCsvAsync source Plan.healthy calls w).outcome with
        | returned _ => exact absurd hEnd hOutcome
        | threw error => exact ⟨error, rfl⟩
        | killed => exact absurd hEnd hAlive
      · rcases hCause with ⟨_, hError⟩ | ⟨_, _, hError⟩
        · cases (staleEvent_of_backfill hBackfill w).symm.trans hError
        · rw [hError]
          rfl
    · refine ⟨hFrame, Or.inl ⟨hOutcome, (Bool.not_eq_true _).mp hUnreadable, ?_⟩⟩
      rw [hResult]
      rfl

/-- What one turn of the page loop gives. -/
theorem backfillObject_always (hPlan : AlwaysFails unreadable plan) {start : World}
    (hFrame : Frame start w) (key : Str) :
    let run := s.backfillObject fromDate toDate key plan calls w
    Frame start run.state ∧ ∃ out, run.outcome = .returned out ∧
      (out.2 ≠ [] ↔ s.alwaysFails fromDate toDate unreadable start key = true) := by
  intro run
  unfold IngestService.alwaysFails
  obtain ⟨hDateless, hRun⟩ | ⟨hDate, hSelects, hRun⟩ | ⟨hDate, hSelects, hRun⟩ :=
    s.backfillObject_cases key
  · obtain ⟨event, hRun⟩ := hRun plan calls w
    rw [show run = _ from hRun]
    exact ⟨hFrame.trans (aside_logLine w event).toFrame, _, rfl, by simp [hDateless]⟩
  · rw [show run = _ from hRun plan calls w]
    exact ⟨hFrame, _, rfl, by simp [hDate, hSelects]⟩
  · obtain ⟨source, hMade⟩ := s.create_of_selects fromDate toDate hSelects
    rw [hMade] at hRun ⊢
    obtain ⟨hOwn, hEnds⟩ := processCsvAsync_always s calls w hPlan (s.sequencer_of_create hMade)
    have hKey := key_of_create hMade
    have hResult := transformed_congr hFrame.raw hFrame.targetListParameter s source
    rw [hResult, hKey] at hEnds
    rcases hEnds with ⟨hReturned, hReadable, hAccepted⟩ | ⟨⟨error, hThrew⟩, hCause⟩
    · have hTry : s.tryProcess (.ok source) plan calls w = _ := Async.attempt_of_returned hReturned
      rw [show run = _ from hRun plan calls w none (by rw [hTry]), hTry]
      exact ⟨hFrame.trans hOwn, _, rfl, by simp [hDate, hSelects, hReadable, hAccepted]⟩
    · have hTry : s.tryProcess (.ok source) plan calls w = _ := Async.attempt_of_threw hThrew
      rw [show run = _ from hRun plan calls w (some error) (by rw [hTry]), hTry]
      refine ⟨hFrame.trans hOwn, _, rfl, ?_⟩
      simp only [hDate, hSelects, Bool.false_or, Bool.true_and, Bool.or_eq_true]
      exact ⟨fun _ => hCause, fun _ => nofun⟩

/-- A page has errors if one of its turns has. -/
theorem flatMap_ne_nil_iff {bad : Str → Bool} {keys : List Str} {outs : List (Nat × List Exn)}
    (h : List.Forall₂ (fun key out => out.2 ≠ [] ↔ bad key = true) keys outs) :
    outs.flatMap Prod.snd ≠ [] ↔ keys.any bad = true := by
  induction h with
  | nil => simp
  | cons hOut _ ih =>
      rw [List.flatMap_cons, Ne, List.append_eq_nil_iff, not_and_or, List.any_cons, Bool.or_eq_true]
      exact or_congr hOut ih

/-- An invocation for a page asks for the next page whether it throws or not,
and it throws if some object of the page always fails. -/
theorem processBackfillAsync_always (hPlan : AlwaysFails unreadable plan)
    (hBounds : BackfillRequest.reversed fromDate toDate = false) {token : Option Str}
    (hLinked : (w.rawListing token).Linked) :
    let run := s.processBackfillAsync fromDate toDate token plan calls w
    Frame (w.send (continuations fromDate toDate (w.rawListing token))) run.state ∧
      ((∃ error, run.outcome = .threw error) ↔
        s.pageFails fromDate toDate unreadable w token = true) := by
  let opened := s.openPage fromDate toDate token plan calls w
  let loop := Async.collect (s.backfillObject fromDate toDate) (w.rawListing token).served.1 plan
    opened.calls opened.state
  let sent := w.send (continuations fromDate toDate (w.rawListing token))
  obtain ⟨hOpen, hAside⟩ :=
    IngestService.openPage_returned s fromDate toDate calls hPlan.onlyRawFails hLinked
  have hLoop : Frame sent loop.state ∧ ∃ outs, loop.outcome = .returned outs ∧
      List.Forall₂ (fun key (out : Nat × List Exn) =>
        out.2 ≠ [] ↔ s.alwaysFails fromDate toDate unreadable sent key = true)
        (w.rawListing token).served.1 outs :=
    Async.collect_returns (Frame sent) _ (fun key _ calls after h => backfillObject_always hPlan h key)
      hAside.toFrame
  obtain ⟨hFrame, outs, hOuts, hGives⟩ := hLoop
  obtain ⟨hEnd, hThrows⟩ := IngestService.processBackfillAsync_ends hBounds hOpen hOuts
  refine ⟨hFrame.trans hEnd.toFrame, hThrows.trans ?_⟩
  exact flatMap_ne_nil_iff hGives

variable (plan calls w) in
/-- An invocation ends like the work it dispatches to, which only logs more. -/
theorem Function.handleAsync_ends (f : Function) (payload : Json) :
    let inner := f.dispatch payload plan calls w
    let run := f.handleAsync payload plan calls w
    Aside inner.state run.state ∧
      ((∃ error, run.outcome = .threw error) ↔ ∃ error, inner.outcome = .threw error) := by
  intro inner run
  unfold inner run handleAsync Async.catching
  rcases f.dispatch payload plan calls w with ⟨outcome, calls', after⟩
  cases outcome with
  | returned value => exact ⟨Aside.refl _, Iff.rfl⟩
  | threw error => exact ⟨aside_logLine _ _, fun _ => ⟨error, rfl⟩, fun _ => ⟨error, rfl⟩⟩
  | killed => exact ⟨Aside.refl _, Iff.rfl⟩

/-- An invocation for a page. -/
theorem Function.handleAsync_always (f : Function) (hPlan : AlwaysFails unreadable plan)
    {payload : Json} {request : BackfillRequest} (h : Requests payload request)
    (hLinked : (w.rawListing request.continuationToken).Linked) :
    let run := f.handleAsync payload plan calls w
    Frame (w.send (continuations request.fromDate request.toDate
        (w.rawListing request.continuationToken))) run.state ∧
      ((∃ error, run.outcome = .threw error) ↔ f.ingest.pageFails request.fromDate request.toDate
        unreadable w request.continuationToken = true) := by
  intro run
  obtain ⟨hAside, hThrows⟩ := f.handleAsync_ends plan calls w payload
  rw [f.dispatch_of_requests h] at hAside hThrows
  obtain ⟨hFrame, hFails⟩ := processBackfillAsync_always hPlan h.notReversed hLinked
  exact ⟨hFrame.trans hAside.toFrame, hThrows.trans hFails⟩

end Page

section Walk

variable {f : Function} {fromDate toDate : Option DateOnly} {unreadable : Str → Bool} {root : Json}
  {listing : Listing Str Str} {start w : World}

/-- What decides whether a page fails is as it was at the start. -/
structure SameInputs (start w : World) : Prop where
  raw : w.raw = start.raw
  rawListing : w.rawListing = start.rawListing
  targetListParameter : w.targetListParameter = start.targetListParameter

theorem IngestService.pageFails_congr (s : IngestService) (h : SameInputs start w)
    (continuationToken : Option Str) :
    s.pageFails fromDate toDate unreadable w continuationToken =
      s.pageFails fromDate toDate unreadable start continuationToken := by
  unfold pageFails
  rw [h.rawListing]
  congr 1
  funext key
  unfold alwaysFails
  cases IngestSource.create s.rawBucket key none none with
  | error _ => rfl
  | ok source =>
      dsimp only
      rw [transformed_congr h.raw h.targetListParameter s source]

/-- The tokens that the walk of the listing asks for. -/
abbrev World.Paged (w : World) : Option Str → Prop :=
  Listing.Asked (fun token => (w.rawListing token).served) none

/-- The page that follows a page. -/
def World.nextPages (w : World) (continuationToken : Option Str) : List (Option Str) :=
  (w.rawListing continuationToken).served.2.toList.map some

/-- The payload asks for a page of the walk. -/
def PayloadOf (fromDate toDate : Option DateOnly) (root : Json) (start : World) (payload : Json) :
    Prop :=
  ∃ token, start.Paged token ∧ payload = pagePayload fromDate toDate root token

theorem pageToken_pagePayload
    (hRoot : Requests root ⟨some BackfillRequest.modeValue, fromDate, toDate, none⟩)
    (token : Option Str) : pageToken (pagePayload fromDate toDate root token) = token := by
  unfold pageToken
  cases token with
  | none =>
      obtain ⟨_, _, _, _, hRead, _⟩ := hRoot
      rw [pagePayload, hRead]
  | some token =>
      rw [pagePayload, BackfillRequest.deserialize_serialize]
      rfl

/-- Whether an invocation throws, and the page it asks for, depends on its own
page alone. -/
theorem retrying_steady
    (hRoot : Requests root ⟨some BackfillRequest.modeValue, fromDate, toDate, none⟩)
    (hListing : RawListing start.rawListing listing) :
    (retrying f unreadable start).Steady root (SameInputs start)
      (PayloadOf fromDate toDate root start)
      (f.ingest.pageFails fromDate toDate unreadable start) start.nextPages where
  positive := Nat.succ_pos _
  first := ⟨none, .first, rfl⟩
  initial := by
    rintro _ rfl
    exact ⟨rfl, rfl, rfl⟩
  attempt := by
    rintro w _ failed _ hSame ⟨token, hAsked, rfl⟩ ⟨plan, paging, hPlan, hFailed, rfl⟩
    have hRequests := requests_pagePayload hRoot hListing hAsked
    have hLinked : (w.rawListing token).Linked := by
      rw [hSame.rawListing]
      exact hListing.linked token hAsked
    obtain ⟨hFrame, hThrows⟩ := f.handleAsync_always (w := { w with paging }) hPlan hRequests hLinked
    have hNewly : (retrying f unreadable start).newly w
        (f.handleAsync (pagePayload fromDate toDate root token) plan 0 { w with paging }).state =
          continuations fromDate toDate (start.rawListing token) := by
      unfold Redelivery.newly
      rw [show (retrying f unreadable start).sent = World.invocations from rfl, hFrame.invocations,
        ← hSame.rawListing]
      exact List.drop_left
    rw [hNewly, show (retrying f unreadable start).name = pageToken from rfl,
      pageToken_pagePayload hRoot]
    refine ⟨⟨hFrame.raw.trans hSame.raw, hFrame.rawListing.trans hSame.rawListing,
      hFrame.targetListParameter.trans hSame.targetListParameter⟩, ?_, ?_, ?_⟩
    · rw [Bool.eq_iff_iff, ← f.ingest.pageFails_congr hSame token]
      exact hFailed.trans hThrows
    · rw [continuations, World.nextPages, List.map_map]
      exact List.map_congr_left fun next _ => pageToken_pagePayload hRoot (some next)
    · intro new hNew
      obtain ⟨next, hNext, rfl⟩ := List.mem_map.mp hNew
      exact ⟨some next, hAsked.next (Option.mem_toList.mp hNext), rfl⟩

/-- The plan that fails just the reads of unreadable objects. -/
def failing (unreadable : Str → Bool) : FaultPlan := fun _ request =>
  match request with
  | .getRaw _ key _ =>
    if unreadable key then .fail ⟨.amazonS3 503 "SlowDown".toList, slowDown_not_missing⟩ false
    else .pass
  | _ => .pass

theorem alwaysFails_failing (unreadable : Str → Bool) : AlwaysFails unreadable (failing unreadable) := by
  intro n request
  cases request with
  | getRaw bucket key versionId =>
      dsimp only [failing]
      split_ifs
      · exact ⟨_, _, rfl⟩
      · rfl
  | getState => rfl
  | getParameter => rfl
  | listAnalytics => rfl
  | putObject => rfl
  | deleteObject => rfl
  | listRaw => rfl
  | invokeLambda => rfl

/-- Every run of a backfill can be run to its end. -/
theorem retrying_finishes
    (hRoot : Requests root ⟨some BackfillRequest.modeValue, fromDate, toDate, none⟩)
    (hListing : RawListing start.rawListing listing) {pending : List (Json × Nat)}
    {attempts : List Json} (hRuns : (retrying f unreadable start).Runs root w pending attempts) :
    ∃ after more, (retrying f unreadable start).Runs root after [] (attempts ++ more) := by
  let r := retrying f unreadable start
  let own := r.own (f.ingest.pageFails fromDate toDate unreadable start)
  have hSteady : r.Steady root _ _ _ _ := retrying_steady hRoot hListing
  refine hSteady.finishes (Listing.costFrom (fun token => (start.rawListing token).served) own)
    ?_ ?_ hRuns
  · rintro _ ⟨token, hAsked, rfl⟩
    rw [show r.name = pageToken from rfl, pageToken_pagePayload hRoot,
      hAsked.costFrom_eq hListing.served, World.nextPages, List.map_map]
    rfl
  · intro w payload _ _
    let run := f.handleAsync payload (failing unreadable) 0 { w with paging := Paging.single }
    by_cases hThrew : ∃ error, run.outcome = .threw error
    · exact ⟨true, run.state, failing unreadable, Paging.single, alwaysFails_failing unreadable,
        iff_of_true rfl hThrew, rfl⟩
    · exact ⟨false, run.state, failing unreadable, Paging.single, alwaysFails_failing unreadable,
        iff_of_false nofun hThrew, rfl⟩

/-- A finished run attempts the first page as often as its own failures ask for. -/
theorem executions_firstPage
    (hRoot : Requests root ⟨some BackfillRequest.modeValue, fromDate, toDate, none⟩)
    (hListing : RawListing start.rawListing listing) {attempts : List Json}
    (hRuns : (retrying f unreadable start).Runs root w [] attempts) :
    let r := retrying f unreadable start
    r.executions attempts none = r.own (f.ingest.pageFails fromDate toDate unreadable start) none := by
  intro r
  have hNone : r.name root = none := pageToken_pagePayload hRoot none
  rw [← hNone]
  refine (retrying_steady hRoot hListing).executions_first hRuns fun payload _ hm => ?_
  obtain ⟨_, _, hEq⟩ := List.mem_map.mp hm
  exact nomatch hEq.trans hNone

/-- The attempts of a page multiply those of the page after it. -/
theorem executions_nextPage
    (hRoot : Requests root ⟨some BackfillRequest.modeValue, fromDate, toDate, none⟩)
    (hListing : RawListing start.rawListing listing) {attempts : List Json}
    (hRuns : (retrying f unreadable start).Runs root w [] attempts) {token : Option Str} {next : Str}
    (hAsked : start.Paged token) (hNext : (start.rawListing token).served.2 = some next) :
    let r := retrying f unreadable start
    r.executions attempts (some next) = r.executions attempts token *
      r.own (f.ingest.pageFails fromDate toDate unreadable start) (some next) := by
  intro r
  have hNone : r.name root = none := pageToken_pagePayload hRoot none
  refine (retrying_steady hRoot hListing).executions_next hRuns (by rw [hNone]; nofun) ?_ ?_
  · unfold World.nextPages
    rw [hNext]
    rfl
  · rintro _ ⟨other, hOther, rfl⟩ hDiffers hm
    rw [show r.name = pageToken from rfl, pageToken_pagePayload hRoot] at hDiffers hm
    obtain ⟨_, hm, hEq⟩ := List.mem_map.mp hm
    cases hEq
    exact hDiffers
      (hOther.next_injective hListing.served hAsked (Option.mem_toList.mp hm) hNext)

/-- Every page is attempted as often as its own failures ask for, and no more
than the maximum, and the work is linear in the number of pages. -/
structure RetriedIndependently (f : Function) (fromDate toDate : Option DateOnly)
    (unreadable : Str → Bool) (start : World) (listing : Listing Str Str) (attempts : List Json) :
    Prop where
  atMost : ∀ token, start.Paged token →
    (retrying f unreadable start).executions attempts token ≤ 1 + maximumRetryAttempts
  own : ∀ token, start.Paged token →
    (retrying f unreadable start).executions attempts token =
      if f.ingest.pageFails fromDate toDate unreadable start token then 1 + maximumRetryAttempts else 1
  linear : attempts.length ≤ listing.length * (1 + maximumRetryAttempts)

/-- The pages of a backfill are retried independently just if no page with a next
page has an object that always fails. -/
theorem Function.retriedIndependently_iff (f : Function) {fromDate toDate : Option DateOnly}
    {unreadable : Str → Bool} {root : Json} {listing : Listing Str Str} {start : World}
    (hRoot : Requests root ⟨some BackfillRequest.modeValue, fromDate, toDate, none⟩)
    (hListing : RawListing start.rawListing listing) :
    (∀ w pending attempts, (retrying f unreadable start).Runs root w pending attempts →
      ∃ after more, (retrying f unreadable start).Runs root after [] (attempts ++ more)) ∧
    ∀ w attempts, (retrying f unreadable start).Runs root w [] attempts →
      (RetriedIndependently f fromDate toDate unreadable start listing attempts ↔
        ∀ token next, start.Paged token → (start.rawListing token).served.2 = some next →
          f.ingest.pageFails fromDate toDate unreadable start token = false) := by
  refine ⟨fun w pending attempts hRuns => retrying_finishes hRoot hListing hRuns,
    fun w attempts hRuns => ⟨fun h token next hAsked hNext => ?_, fun hCondition => ?_⟩⟩
  · have hBoth := executions_nextPage hRoot hListing hRuns hAsked hNext
    dsimp only at hBoth
    rw [h.own token hAsked, h.own (some next) (hAsked.next hNext)] at hBoth
    have hPositive : 0 < (retrying f unreadable start).own
        (f.ingest.pageFails fromDate toDate unreadable start) (some next) := by
      unfold Redelivery.own
      split_ifs
      · exact Nat.succ_pos _
      · exact Nat.one_pos
    have hOnce := Nat.eq_of_mul_eq_mul_right hPositive ((Nat.one_mul _).trans hBoth)
    by_contra hFails
    rw [if_pos ((Bool.not_eq_false _).mp hFails)] at hOnce
    cases hOnce
  have hOwn : ∀ token, start.Paged token → (retrying f unreadable start).executions attempts token =
      if f.ingest.pageFails fromDate toDate unreadable start token then 1 + maximumRetryAttempts
      else 1 := by
    intro token hAsked
    induction hAsked with
    | first => exact executions_firstPage hRoot hListing hRuns
    | @next token next hAsked hNext ih =>
        rw [executions_nextPage hRoot hListing hRuns hAsked hNext, ih, hCondition token next hAsked hNext]
        exact Nat.one_mul _
  have hAtMost : ∀ token, start.Paged token →
      (retrying f unreadable start).executions attempts token ≤ 1 + maximumRetryAttempts := by
    intro token hAsked
    rw [hOwn token hAsked]
    split_ifs
    · exact Nat.le_refl _
    · exact Nat.le_add_right 1 _
  refine ⟨hAtMost, hOwn, ?_⟩
  have hKnown (payload : Json) (hm : payload ∈ attempts) :
      start.Paged ((retrying f unreadable start).name payload) := by
    obtain ⟨token, hAsked, rfl⟩ :=
      ((retrying_steady hRoot hListing).balance hRuns).2.2.1 payload hm
    rw [show (retrying f unreadable start).name = pageToken from rfl, pageToken_pagePayload hRoot]
    exact hAsked
  rw [← listing.length_places none]
  exact Redelivery.length_le_of_executions_le
    (fun payload hm => (hKnown payload hm).mem_places hListing.served)
    (fun payload hm => hAtMost _ (hKnown payload hm))

end Walk

section Example

/-- Both raw objects of the example are missing, so both pages always fail. -/
theorem exampleListed_fails (continuationToken : Option Str) :
    exampleService.pageFails none none (fun _ => false) exampleListed continuationToken = true := by
  cases continuationToken with
  | none => decide
  | some token =>
      change exampleService.pageFails none none (fun _ => false) exampleListed (some []) = true
      decide

/-- The two pages of the example, of which the first one makes the second one
be walked too often. -/
theorem retriedIndependently_example :
    (∀ w pending attempts,
      (retrying exampleFunction (fun _ => false) exampleListed).Runs exampleRoot w pending attempts →
        ∃ after more, (retrying exampleFunction (fun _ => false) exampleListed).Runs exampleRoot after
          [] (attempts ++ more)) ∧
    ∀ w attempts,
      (retrying exampleFunction (fun _ => false) exampleListed).Runs exampleRoot w [] attempts →
        (RetriedIndependently exampleFunction none none (fun _ => false) exampleListed
          (.more [exampleReportKey "20".toList] ['t'] (.last [exampleReportKey "21".toList]))
          attempts ↔ ∀ token next, exampleListed.Paged token →
            (exampleListed.rawListing token).served.2 = some next →
              exampleService.pageFails none none (fun _ => false) exampleListed token = false) :=
  exampleFunction.retriedIndependently_iff exampleRoot_requests exampleRespond_listing

/-- One request for two pages with a failing object each walks the second page
nine times. -/
theorem second_page_walked_nine_times :
    ∃ w attempts,
      (retrying exampleFunction (fun _ => false) exampleListed).Runs exampleRoot w [] attempts ∧
      (retrying exampleFunction (fun _ => false) exampleListed).executions attempts (some ['t']) = 9 ∧
      ¬RetriedIndependently exampleFunction none none (fun _ => false) exampleListed
        (.more [exampleReportKey "20".toList] ['t'] (.last [exampleReportKey "21".toList]))
        attempts := by
  let r := retrying exampleFunction (fun _ => false) exampleListed
  have hStart : r.Runs exampleRoot exampleListed [(exampleRoot, 0)] [] := .start rfl
  obtain ⟨w, attempts, hRuns⟩ :=
    retrying_finishes exampleRoot_requests exampleRespond_listing hStart
  rw [List.nil_append] at hRuns
  have hOwn (token : Option Str) : r.own (exampleFunction.ingest.pageFails none none
      (fun _ => false) exampleListed) token = 3 := if_pos (exampleListed_fails token)
  have hFirst : r.executions attempts none = 3 :=
    (executions_firstPage exampleRoot_requests exampleRespond_listing hRuns).trans (hOwn none)
  have hNext : r.executions attempts (some ['t']) = r.executions attempts none * _ :=
    executions_nextPage exampleRoot_requests exampleRespond_listing hRuns .first rfl
  have hNine : r.executions attempts (some ['t']) = 9 := by
    rw [hNext, hOwn, hFirst]
  refine ⟨w, attempts, hRuns, hNine, fun h => ?_⟩
  have hAtMost := h.atMost (some ['t']) (.next .first rfl)
  rw [hNine] at hAtMost
  exact absurd hAtMost (by decide)

end Example

end KiroIngest
