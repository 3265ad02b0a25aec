import KiroUsage.Ingest.Reconciliation
import KiroUsage.Ingest.Turns

/-! Poison objects: malformed records, objects that cannot be read and reports
that are refused. A run for one of them ends before its first write, and a run
for any other object is as if no call failed. -/
namespace KiroIngest

open Text Storage Execution ReportTransform

/-- Why a record or a key is poison when its turn comes, which is after a number
of calls and in a state of the services. -/
inductive Poison (s : IngestService) (plan : FaultPlan) (created : Except Exn IngestSource)
    (calls : Nat) (w : World) : Prop
  /-- No source can be made of it. -/
  | malformed (error : Exn) (h : created = .error error)
  /-- The read of the raw object fails. -/
  | unread (source : IngestSource) (cause : CallFailure) (applied : Bool) (h : created = .ok source)
      (hFault : source.rawFault plan calls = .fail cause applied)
  /-- There is no such raw object. -/
  | missing (source : IngestSource) (error : Exn) (h : created = .ok source)
      (hRead : w.readRaw source.bucket source.key source.versionId = .error error)
  /-- The transform refuses the report. -/
  | rejected (source : IngestSource) (csv : CsvText) (targetList : Str → Bool) (error : Exn)
      (h : created = .ok source)
      (hRead : w.readRaw source.bucket source.key source.versionId = .ok csv)
      (hTarget : parseTargetList s.platform w.targetListParameter = .ok targetList)
      (hRejected : transform s.platform csv targetList = .error error)

/-- The state document of a live event's source can be read, and it holds a
hexadecimal sequencer if it holds one. -/
def World.Readable (w : World) (source : IngestSource) : Prop :=
  source.sequencer.isSome = true →
    ∃ saved, w.savedSequencer source = .ok saved ∧ ∀ t ∈ saved, ∀ c ∈ t, isHexDigit c = true

/-- A run that skips a stale event, or publishes. -/
def Settled (s : IngestService) (source : IngestSource) (before after : World) : Prop :=
  (before.staleEvent source = .ok true ∧ after.analytics = before.analytics) ∨
    ∃ result complete, before.staleEvent source = .ok false ∧
      s.transformed source before = .ok result ∧
      Reconciled (owned source) (prepareOutputs source result) before.analytics complete ∧
      after.analytics = withSequencer source complete

theorem World.Readable.stale {w : World} {source : IngestSource} (h : w.Readable source) :
    ∃ stale, w.staleEvent source = .ok stale := by
  unfold World.staleEvent
  cases hSequencer : source.sequencer with
  | none => exact ⟨false, rfl⟩
  | some sequencer =>
      obtain ⟨saved, hSaved, hHex⟩ := h (by rw [hSequencer]; rfl)
      dsimp only
      rw [hSaved, Fallible.ok_bind]
      cases saved with
      | none => exact ⟨false, rfl⟩
      | some saved =>
          exact ⟨_, isStale_some (source.sequencer_valid sequencer hSequencer) (hHex saved rfl)⟩

theorem not_poison_transformed {s : IngestService} {plan : FaultPlan} {source : IngestSource}
    {calls : Nat} {w : World} {targetList : Str → Bool}
    (hTarget : parseTargetList s.platform w.targetListParameter = .ok targetList)
    (h : ¬Poison s plan (.ok source) calls w) : ∃ result, s.transformed source w = .ok result := by
  unfold IngestService.transformed
  cases hRead : w.readRaw source.bucket source.key source.versionId with
  | error error => exact absurd (.missing source error rfl hRead) h
  | ok csv =>
      rw [Fallible.ok_bind, hTarget, Fallible.ok_bind]
      cases hTransform : transform s.platform csv targetList with
      | error error => exact absurd (.rejected source csv targetList error rfl hRead hTarget hTransform) h
      | ok result => exact ⟨result, rfl⟩

/-- A poison object whose read goes through gives no result. -/
theorem Poison.transformed {s : IngestService} {plan : FaultPlan} {source : IngestSource}
    {calls : Nat} {w : World} (h : Poison s plan (.ok source) calls w)
    (hPass : source.rawFault plan calls = .pass) : ∃ error, s.transformed source w = .error error := by
  unfold IngestService.transformed
  cases h with
  | malformed error h => cases h
  | unread _ cause applied h hFault =>
      cases h
      rw [hPass] at hFault
      cases hFault
  | missing _ error h hRead =>
      cases h
      exact ⟨error, by rw [hRead]; rfl⟩
  | rejected _ csv targetList error h hRead hTarget hRejected =>
      cases h
      exact ⟨error, by rw [hRead, Fallible.ok_bind, hTarget, Fallible.ok_bind, hRejected]⟩

theorem not_poison {s : IngestService} {plan : FaultPlan} {source : IngestSource} {calls : Nat}
    {w : World} (hPass : source.rawFault plan calls = .pass)
    (hAccepted : (s.transformed source w).toOption.isSome = true) :
    ¬Poison s plan (.ok source) calls w := by
  intro h
  obtain ⟨error, hError⟩ := h.transformed hPass
  rw [hError] at hAccepted
  cases hAccepted

section Runs

variable {s : IngestService} {source : IngestSource} {plan : FaultPlan} {calls : Nat} {w : World}

/-- A run for an object that is not poison skips or publishes. -/
theorem processCsvAsync_settles {targetList : Str → Bool} (hPlan : OnlyRawFails plan)
    (hTarget : parseTargetList s.platform w.targetListParameter = .ok targetList)
    (hReadable : w.Readable source) (hGood : ¬Poison s plan (.ok source) calls w) :
    let run := s.processCsvAsync source plan calls w
    run.outcome = .returned () ∧ Frame w run.state ∧ Settled s source w run.state := by
  have hAgrees : s.processCsvAsync source plan calls w =
      s.processCsvAsync source Plan.healthy calls w := by
    refine s.processCsvAsync_agrees source (fun n request hOther => ?_) ?_
    · refine (hPlan n request).resolve_right fun ⟨hRead, _⟩ => ?_
      rw [hOther] at hRead
      cases hRead
    · refine (hPlan _ _).resolve_right fun ⟨_, cause, applied, hFail⟩ => ?_
      exact hGood (.unread source cause applied rfl hFail)
  intro run
  rw [show run = _ from hAgrees]
  obtain ⟨stale, hStale⟩ := hReadable.stale
  obtain ⟨result, hResult⟩ := not_poison_transformed hTarget hGood
  obtain ⟨hFrame, ⟨hOutcome, hSkip, hAnalytics⟩ | ⟨_, _, ⟨_, hError⟩ | ⟨_, _, hError⟩⟩ |
    ⟨result', complete, hOutcome, hFresh, hResult', hReconciled, hAnalytics⟩⟩ :=
    s.processCsvAsync_healthy source calls w
  · exact ⟨hOutcome, hFrame, Or.inl ⟨hSkip, hAnalytics⟩⟩
  · rw [hStale] at hError; cases hError
  · rw [hResult] at hError; cases hError
  · exact ⟨hOutcome, hFrame, Or.inr ⟨result', complete, hFresh, hResult', hReconciled, hAnalytics⟩⟩

/-- Every read of a raw object fails, and nothing else. -/
def rawReadsFail (cause : CallFailure) (applied : Bool) : FaultPlan := fun _ request =>
  if request.isRawRead then .fail cause applied else .pass

/-- What a run leaves that ends before its first write. It throws unless the
event is stale. -/
structure Untouched (source : IngestSource) (before : World) (outcome : Outcome Exn Unit)
    (after : World) : Prop extends Frame before after where
  analytics : after.analytics = before.analytics
  ends : (outcome = .returned () ∧ before.staleEvent source = .ok true) ∨
    ((∃ error, outcome = .threw error) ∧ before.staleEvent source ≠ .ok true)

theorem rawReadsFail_agrees (cause : CallFailure) (applied : Bool) (n : Nat) (request : AwsCall)
    (h : request.isRawRead = false) : rawReadsFail cause applied n request = Plan.healthy n request := by
  simp [rawReadsFail, h, Plan.healthy]

/-- The staleness of the event is found out, whatever becomes of raw reads. -/
theorem isStaleEventAsync_unread (cause : CallFailure) (applied : Bool) :
    Triple (rawReadsFail cause applied)
      (fun st : World × Bookkeeping => Quiet (w.recordProcessing source) st.1 ∧ st.2 = {})
      (Async.lift (isStaleEventAsync source))
      ⟨fun stale st => w.staleEvent source = .ok stale ∧
          Quiet (w.recordProcessing source) st.1 ∧ st.2 = {},
        fun error st => w.staleEvent source = .error error ∧
          Quiet (w.recordProcessing source) st.1 ∧ st.2 = {},
        fun _ => False⟩ := by
  have hUndisturbed : ¬DisturbsReads Plan.healthy :=
    fun ⟨request, _, h⟩ => not_disturbs_healthy request h
  refine (isStaleEventAsync_rawFree source).lift.triple (rawReadsFail_agrees cause applied) ?_
  have hReads : Reads Plan.healthy (w.recordProcessing source) (isStaleEventAsync source)
      (w.staleEvent source) :=
    isStaleEventAsync_reads source
  refine (hReads.lift {}).consequence (fun _ h => h) (fun _ _ h => h) ?_ ?_
  · exact fun _ _ ⟨hCause, hState⟩ => ⟨hCause.resolve_right hUndisturbed, hState⟩
  · exact fun _ ⟨hDisturbed, _⟩ => hUndisturbed hDisturbed

/-- The `try` block throws at the read of the raw object. -/
theorem reconcileAsync_unread (cause : CallFailure) (applied : Bool) :
    Triple (rawReadsFail cause applied)
      (fun st : World × Bookkeeping => Quiet (w.recordProcessing source) st.1 ∧ st.2 = {})
      (s.reconcileAsync source)
      ⟨fun _ _ => False, fun _ st => Quiet (w.recordProcessing source) st.1 ∧ st.2 = {},
        fun _ => False⟩ := by
  refine Triple.bind (fun _ _ => False) ?_ fun _ _ _ h => h.elim
  refine Triple.lift ({} : Bookkeeping) ?_
  refine Triple.bind (fun _ _ => False) ?_ fun _ _ _ h => h.elim
  refine Triple.failing (fun _ => rfl) fun w' h => ?_
  refine ⟨?_, rfl⟩
  cases applied <;> exact h

/-- A run that cannot read its raw object. -/
theorem processCsvAsync_unread (cause : CallFailure) (applied : Bool) :
    let run := s.processCsvAsync source (rawReadsFail cause applied) calls w
    Untouched source w run.outcome run.state := by
  let start := w.recordProcessing source
  have hUntouched {w' : World} {outcome : Outcome Exn Unit} (h : Quiet start w')
      (hEnds : (outcome = .returned () ∧ w.staleEvent source = .ok true) ∨
        ((∃ error, outcome = .threw error) ∧ w.staleEvent source ≠ .ok true)) :
      Untouched source w outcome w' :=
    ⟨(frame_recordProcessing w source).trans h.toFrame, h.analytics, hEnds⟩
  have hTriple : Triple (rawReadsFail cause applied) (· = w) (s.processCsvAsync source)
      ⟨fun _ w' => Untouched source w (.returned ()) w',
        fun error w' => Untouched source w (.threw error) w', fun _ => False⟩ := by
    refine Triple.bind (fun _ w' => w' = start) (Triple.modify _ fun w' h => by rw [h]; rfl) fun _ => ?_
    refine Triple.catchingWith
      (fun vars _ w' => vars = {} ∧ Quiet start w' ∧ w.staleEvent source ≠ .ok true) ?_ ?_
    · refine Triple.bind _ ((isStaleEventAsync_unread (w := w) cause applied).consequence ?_
        (fun _ _ h => h) ?_ fun _ h => h) fun stale => ?_
      · rintro ⟨w', vars⟩ ⟨rfl, rfl⟩
        exact ⟨Quiet.refl _, rfl⟩
      · rintro error ⟨w', vars⟩ ⟨hError, hQuiet, rfl⟩
        exact ⟨rfl, hQuiet, fun h => by rw [hError] at h; cases h⟩
      refine Triple.assuming (fun _ h => h.1) fun hStale => ?_
      cases stale with
      | true =>
          rw [if_pos rfl]
          refine (Triple.lift ({} : Bookkeeping) (Triple.modify _ fun w' h => ?_)).strengthen
            fun _ h => h.2
          exact hUntouched (Rewritten.logLine h rfl) (Or.inl ⟨rfl, hStale⟩)
      | false =>
          refine (reconcileAsync_unread (w := w) cause applied).consequence (fun _ h => h.2)
            (fun _ _ h => h.elim) ?_ fun _ h => h.elim
          rintro error ⟨w', vars⟩ ⟨hQuiet, rfl⟩
          exact ⟨rfl, hQuiet, fun h => by rw [hStale] at h; cases h⟩
    · intro vars error
      refine Triple.assuming (fun _ h => h.1) fun hVars => ?_
      refine Triple.assuming (fun _ h => h.2.2) fun hFresh => ?_
      subst hVars
      refine (failClosed_quiet error (Or.inl rfl)).consequence (fun _ h => h.2.1)
        (fun _ _ h => h.elim) (fun error' w' h => ?_) fun _ h => h.elim
      exact hUntouched h (Or.inr ⟨⟨_, rfl⟩, hFresh⟩)
  obtain ⟨_, hOutcome, hEnd⟩ | ⟨_, hOutcome, hEnd⟩ | ⟨_, hEnd⟩ := hTriple.ends calls
  · intro run
    rwa [show run.outcome = _ from hOutcome]
  · intro run
    rwa [show run.outcome = _ from hOutcome]
  · exact hEnd.elim

/-- A run for a poison object changes nothing. -/
theorem processCsvAsync_poison (hPlan : OnlyRawFails plan)
    (hPoison : Poison s plan (.ok source) calls w) :
    let run := s.processCsvAsync source plan calls w
    Untouched source w run.outcome run.state := by
  have hOther (n : Nat) (request : AwsCall) (h : request.isRawRead = false) :
      plan n request = .pass := by
    refine (hPlan n request).resolve_right fun ⟨hRead, _⟩ => ?_
    rw [h] at hRead
    cases hRead
  rcases hPlan _ _ with hPass | ⟨_, cause, applied, hFail⟩
  · have hAgrees : s.processCsvAsync source plan calls w =
        s.processCsvAsync source Plan.healthy calls w :=
      s.processCsvAsync_agrees source hOther hPass
    intro run
    rw [show run = _ from hAgrees]
    obtain ⟨error, hRejected⟩ := hPoison.transformed hPass
    have hAlive := (s.processCsvAsync_effect source Plan.healthy calls w).2.ne_killed
    have hThrew (h : (s.processCsvAsync source Plan.healthy calls w).outcome ≠ .returned ()) :
        ∃ error, (s.processCsvAsync source Plan.healthy calls w).outcome = .threw error := by
      cases hOutcome : (s.processCsvAsync source Plan.healthy calls w).outcome with
      | returned _ => exact absurd hOutcome h
      | threw error => exact ⟨error, rfl⟩
      | killed => exact absurd hOutcome hAlive
    obtain ⟨hFrame, ⟨hOutcome, hSkip, hAnalytics⟩ | ⟨hOutcome, hAnalytics, hCause⟩ |
      ⟨_, _, _, _, hResult, _, _⟩⟩ := s.processCsvAsync_healthy source calls w
    · exact ⟨hFrame, hAnalytics, Or.inl ⟨hOutcome, hSkip⟩⟩
    · refine ⟨hFrame, hAnalytics, Or.inr ⟨hThrew hOutcome, fun hStale => ?_⟩⟩
      rcases hCause with ⟨_, hError⟩ | ⟨hFresh, _⟩
      · rw [hStale] at hError; cases hError
      · rw [hStale] at hFresh; cases hFresh
    · rw [hRejected] at hResult; cases hResult
  · have hAgrees : s.processCsvAsync source plan calls w =
        s.processCsvAsync source (rawReadsFail cause applied) calls w :=
      s.processCsvAsync_agrees source (fun n request h => by simp [hOther n request h, rawReadsFail, h])
        hFail
    intro run
    rw [show run = _ from hAgrees]
    exact processCsvAsync_unread cause applied

end Runs

end KiroIngest
