import KiroUsage.Ingest.IngestService

/-! The calls that precede the first write. Each only reads: whatever the plan
does, the services stay as they are, and unless a call is disturbed the program
gives the answer that the state of the services determines. -/
namespace KiroIngest

open Text Storage Execution

/-- Some call with this request does not go through. -/
def Disturbs (plan : FaultPlan) (request : AwsCall) : Prop := ∃ calls, plan calls request ≠ .pass

/-- Some call that only reads does not go through. -/
def DisturbsReads (plan : FaultPlan) : Prop :=
  ∃ request : AwsCall, request.isRead = true ∧ Disturbs plan request

theorem not_disturbs_healthy (request : AwsCall) : ¬Disturbs Plan.healthy request :=
  fun ⟨_, h⟩ => h rfl

theorem disturbs_of_fail {plan : FaultPlan} {request : AwsCall} {calls : Nat} {cause : CallFailure}
    {applied : Bool} (h : plan calls request = .fail cause applied) : Disturbs plan request :=
  ⟨calls, by simp [h]⟩

theorem disturbs_of_kill {plan : FaultPlan} {request : AwsCall} {calls : Nat}
    (h : plan calls request = .kill) : Disturbs plan request :=
  ⟨calls, by simp [h]⟩

def LogEvent.isCleanupError : LogEvent → Bool
  | ingestCleanupError .. => true
  | _ => false

/-- The log lines of clean-up deletes that failed. -/
def World.cleanupErrors (w : World) : List LogEvent := w.log.filter LogEvent.isCleanupError

/-- What no run of `ProcessCsvAsync` changes. -/
structure Frame (before after : World) : Prop where
  raw : after.raw = before.raw
  rawListing : after.rawListing = before.rawListing
  paging : after.paging = before.paging
  targetListParameter : after.targetListParameter = before.targetListParameter
  invocations : after.invocations = before.invocations

theorem Frame.refl (w : World) : Frame w w := ⟨rfl, rfl, rfl, rfl, rfl⟩

theorem Frame.trans {first second third : World} (h : Frame first second)
    (h' : Frame second third) : Frame first third :=
  ⟨h'.raw.trans h.raw, h'.rawListing.trans h.rawListing, h'.paging.trans h.paging,
    h'.targetListParameter.trans h.targetListParameter, h'.invocations.trans h.invocations⟩

/-- Only the analytics bucket has changed, to the given content. Log lines
other than clean-up errors do not count. -/
structure Rewritten (before : World) (bucket : Bucket Str ObjectBody) (after : World) : Prop extends
    Frame before after where
  analytics : after.analytics = bucket
  history : after.history = before.history
  cleanupErrors : after.cleanupErrors = before.cleanupErrors

/-- Nothing has happened but log lines other than clean-up errors. -/
abbrev Quiet (before after : World) : Prop := Rewritten before before.analytics after

theorem Quiet.refl (w : World) : Quiet w w := ⟨Frame.refl w, rfl, rfl, rfl⟩

theorem cleanupErrors_logLine (w : World) {event : LogEvent} (h : event.isCleanupError = false) :
    { w with log := w.log ++ [event] }.cleanupErrors = w.cleanupErrors := by
  simp [World.cleanupErrors, h]

theorem Rewritten.logLine {before after : World} {bucket : Bucket Str ObjectBody}
    (h : Rewritten before bucket after) {event : LogEvent} (hEvent : event.isCleanupError = false) :
    Rewritten before bucket { after with log := after.log ++ [event] } :=
  ⟨⟨h.raw, h.rawListing, h.paging, h.targetListParameter, h.invocations⟩, h.analytics, h.history,
    (cleanupErrors_logLine after hEvent).trans h.cleanupErrors⟩

/-- A program that only reads, and what it reads. -/
def Reads {α : Type} (plan : FaultPlan) (w : World) (program : Ingest α) (answer : Except Exn α) :
    Prop :=
  Triple plan (Quiet w) program
    ⟨fun value after => answer = .ok value ∧ Quiet w after,
      fun error after => (answer = .error error ∨ DisturbsReads plan) ∧ Quiet w after,
      fun after => DisturbsReads plan ∧ Quiet w after⟩

namespace Reads

variable {α β : Type} {plan : FaultPlan} {w : World}

theorem done (value : α) : Reads plan w (pure value) (.ok value) :=
  Triple.done value fun _ h => ⟨rfl, h⟩

theorem ofExcept (result : Except Exn α) : Reads plan w (Async.ofExcept result) result :=
  Triple.ofExcept (fun _ hOk _ h => ⟨hOk, h⟩) (fun _ hError _ h => ⟨Or.inl hError, h⟩)

theorem query {request : AwsCall} (hRead : request.isRead = true) (answer : World → Except Exn α)
    (hSame : ∀ after, Quiet w after → answer after = answer w) :
    Reads plan w (awsQuery request answer) (answer w) := by
  apply Triple.query
  · exact fun after h value hValue => ⟨hSame after h ▸ hValue, h⟩
  · exact fun after h error hError => ⟨Or.inl (hSame after h ▸ hError), h⟩
  · exact fun after h calls cause applied hPlan => ⟨Or.inr ⟨_, hRead, disturbs_of_fail hPlan⟩, h⟩
  · exact fun after h calls hPlan => ⟨⟨_, hRead, disturbs_of_kill hPlan⟩, h⟩

theorem bind {first : Ingest α} {next : α → Ingest β} {answer : Except Exn α}
    (hFirst : Reads plan w first answer) (answerNext : α → Except Exn β)
    (hNext : ∀ value, answer = .ok value → Reads plan w (next value) (answerNext value)) :
    Reads plan w (first >>= next) (answer >>= answerNext) := by
  apply Triple.bind fun value after => answer = .ok value ∧ Quiet w after
  · refine hFirst.consequence (fun _ h => h) (fun _ _ h => h) ?_ (fun _ h => h)
    rintro error after ⟨hError | hDisturbed, hQuiet⟩
    · exact ⟨Or.inl (by rw [hError]; rfl), hQuiet⟩
    · exact ⟨Or.inr hDisturbed, hQuiet⟩
  · intro value
    refine Triple.assuming (fun _ h => h.1) fun hValue => ?_
    rw [hValue]
    exact (hNext value hValue).strengthen fun _ h => h.2

theorem logLine {event : LogEvent} (h : event.isCleanupError = false) :
    Reads plan w (logLine event) (.ok ()) :=
  Triple.modify _ fun _ hQuiet => ⟨rfl, hQuiet.logLine h⟩

/-- Inside the `try` block the bookkeeping stays as it is. -/
theorem lift {program : Ingest α} {answer : Except Exn α} (h : Reads plan w program answer)
    (vars : Bookkeeping) :
    Triple plan (fun st => Quiet w st.1 ∧ st.2 = vars) (Async.lift program)
      ⟨fun value st => answer = .ok value ∧ Quiet w st.1 ∧ st.2 = vars,
        fun error st => (answer = .error error ∨ DisturbsReads plan) ∧
          Quiet w st.1 ∧ st.2 = vars,
        fun st => DisturbsReads plan ∧ Quiet w st.1⟩ := by
  apply Triple.lift vars
  exact h.consequence (fun _ hState => hState) (fun _ _ hEnd => ⟨hEnd.1, hEnd.2, rfl⟩)
    (fun _ _ hEnd => ⟨hEnd.1, hEnd.2, rfl⟩) (fun _ hEnd => hEnd)

end Reads

/-- The sequencer that `ReadSequencerAsync` finds. -/
def World.savedSequencer (w : World) (source : IngestSource) : Except Exn (Option Str) :=
  match w.readState (stateKey source) with
  | .ok sequencer => .ok sequencer
  | .error error => if error.isMissingObject then .ok none else .error error

/-- The decision of `IsStaleEventAsync`. -/
def World.staleEvent (w : World) (source : IngestSource) : Except Exn Bool :=
  match source.sequencer with
  | none => .ok false
  | some sequencer => do isStale sequencer (← w.savedSequencer source)

/-- The result of the transform of the report that a source names. -/
def IngestService.transformed (s : IngestService) (source : IngestSource) (w : World) :
    Except Exn TransformResult := do
  let csv ← w.readRaw source.bucket source.key source.versionId
  let targetList ← parseTargetList s.platform w.targetListParameter
  ReportTransform.transform s.platform csv targetList

/-- The keys that the two listings find. -/
def World.existingOutputKeys (w : World) (source : IngestSource) : List Str :=
  ((w.listAnalytics (usageDailyPrefix ++ ['/'])).objects.filter (isOutputOf source) ++
    (w.listAnalytics (modelMessagesPrefix ++ ['/'])).objects.filter (isOutputOf source)).eraseDups

section Specifications

variable {plan : FaultPlan} {w : World}

theorem readSequencerAsync_reads (source : IngestSource) :
    Reads plan w (readSequencerAsync source) (w.savedSequencer source) := by
  have hState (after : World) (h : Quiet w after) :
      after.readState (stateKey source) = w.readState (stateKey source) := by
    rw [World.readState, h.analytics]
    rfl
  apply Triple.catching fun error after =>
    (w.readState (stateKey source) = .error error ∨
      error.isMissingObject = false ∧ DisturbsReads plan) ∧ Quiet w after
  · apply Triple.query
    · intro after h value hValue
      rw [hState after h] at hValue
      exact ⟨by rw [World.savedSequencer, hValue], h⟩
    · exact fun after h error hError => ⟨Or.inl (hState after h ▸ hError), h⟩
    · exact fun after h calls cause applied hPlan =>
        ⟨Or.inr ⟨cause.not_missing, _, rfl, disturbs_of_fail hPlan⟩, h⟩
    · exact fun after h calls hPlan => ⟨⟨_, rfl, disturbs_of_kill hPlan⟩, h⟩
  · intro error
    split_ifs with hMissing
    · refine Triple.done none ?_
      rintro after ⟨hError | ⟨hOther, _⟩, hQuiet⟩
      · exact ⟨by rw [World.savedSequencer, hError]; exact if_pos hMissing, hQuiet⟩
      · rw [hMissing] at hOther
        cases hOther
    · refine Triple.throwing error ?_
      rintro after ⟨hError | ⟨_, hDisturbed⟩, hQuiet⟩
      · exact ⟨Or.inl (by rw [World.savedSequencer, hError]; exact if_neg hMissing), hQuiet⟩
      · exact ⟨Or.inr hDisturbed, hQuiet⟩

theorem isStaleEventAsync_reads (source : IngestSource) :
    Reads plan w (isStaleEventAsync source) (w.staleEvent source) := by
  unfold isStaleEventAsync World.staleEvent
  cases source.sequencer with
  | none => exact Reads.done false
  | some sequencer =>
      exact (readSequencerAsync_reads source).bind _ fun _ _ => Reads.ofExcept _

theorem warnOnKeyDateMismatch_reads (source : IngestSource) (result : TransformResult) :
    Reads plan w (warnOnKeyDateMismatch source result) (.ok ()) := by
  unfold warnOnKeyDateMismatch
  cases extractDateFromKey source.key with
  | none => exact Reads.done ()
  | some keyDate =>
      dsimp only
      split_ifs
      · exact Reads.logLine rfl
      · exact Reads.done ()

theorem readObjectTextAsync_reads (source : IngestSource) :
    Reads plan w (readObjectTextAsync source)
      (w.readRaw source.bucket source.key source.versionId) :=
  Reads.query rfl (fun w => w.readRaw source.bucket source.key source.versionId)
    fun after h => by rw [World.readRaw, h.raw]; rfl

theorem getTargetListAsync_reads (platform : Platform) :
    Reads plan w (getTargetListAsync platform) (parseTargetList platform w.targetListParameter) :=
  Reads.query rfl (fun w => parseTargetList platform w.targetListParameter)
    fun after h => by rw [h.targetListParameter]

theorem prepareAsync_reads (s : IngestService) (source : IngestSource) :
    Reads plan w (s.prepareAsync source)
      ((s.transformed source w).map fun result => (result, prepareOutputs source result)) := by
  have h : Reads plan w (s.prepareAsync source) _ :=
    (readObjectTextAsync_reads source).bind _ fun csv _ =>
      (getTargetListAsync_reads s.platform).bind _ fun targetList _ =>
        (Reads.ofExcept (ReportTransform.transform s.platform csv targetList)).bind _ fun result _ =>
          (warnOnKeyDateMismatch_reads source result).bind _ fun _ _ =>
            Reads.done (result, prepareOutputs source result)
  suffices hAnswer : (s.transformed source w).map
      (fun result => (result, prepareOutputs source result)) = _ from hAnswer ▸ h
  unfold IngestService.transformed
  cases w.readRaw source.bucket source.key source.versionId with
  | error error => rfl
  | ok csv =>
      cases parseTargetList s.platform w.targetListParameter with
      | error error => rfl
      | ok targetList =>
          change (ReportTransform.transform s.platform csv targetList).map _ =
            ReportTransform.transform s.platform csv targetList >>= _
          cases ReportTransform.transform s.platform csv targetList with
          | error error => rfl
          | ok result => rfl

theorem requireContinuationToken_ofListing (listing : Listing Str Str) (description : Str)
    (h : ∀ token ∈ listing.tokens, isBlank token = false) :
    requireContinuationToken (ListObjectsV2Response.ofListing listing) description =
      .ok listing.next := by
  cases listing with
  | last page => rfl
  | more page token rest =>
      have hToken : isBlank token = false := h token (by simp [Listing.tokens])
      simp [requireContinuationToken, ListObjectsV2Response.ofListing, Listing.next,
        isNullOrWhiteSpace, hToken]

/-- The paging loop finds the matches on all pages. -/
theorem listMatches_reads (source : IngestSource) (keyPrefix : Str) (listing : Listing Str Str)
    (token : Option Str) (found : List Str) (h : ∀ t ∈ listing.tokens, isBlank t = false) :
    Reads plan w (listMatches source keyPrefix listing token found)
      (.ok (found ++ listing.objects.filter (isOutputOf source))) := by
  induction listing generalizing token found with
  | last page =>
      refine (Reads.query rfl _ fun _ _ => rfl).bind (fun _ => _) fun response hResponse => ?_
      cases hResponse
      rw [requireContinuationToken_ofListing _ _ h, ListObjectsV2Response.ofListing_objects]
      exact (Reads.ofExcept (.ok none)).bind _ fun _ _ => Reads.done _
  | more page next rest ih =>
      refine (Reads.query rfl _ fun _ _ => rfl).bind (fun _ => _) fun response hResponse => ?_
      cases hResponse
      rw [requireContinuationToken_ofListing _ _ h, ListObjectsV2Response.ofListing_objects]
      refine (Reads.ofExcept (.ok (some next))).bind (fun _ => _) fun token hToken => ?_
      cases hToken
      have hRest := ih (some next) (found ++ page.filter (isOutputOf source))
        fun t ht => h t (List.mem_cons_of_mem _ ht)
      rw [List.append_assoc, ← List.filter_append] at hRest
      exact hRest

theorem listAnalytics_reads (keyPrefix : Str) :
    Reads plan w (Async.inspect fun w : World => w.listAnalytics keyPrefix)
      (.ok (w.listAnalytics keyPrefix)) := by
  apply Triple.inspect
  intro after h
  refine ⟨?_, h⟩
  rw [World.listAnalytics, World.listAnalytics, h.analytics, h.paging]

theorem findExistingOutputKeysAsync_reads (source : IngestSource) :
    Reads plan w (findExistingOutputKeysAsync source) (.ok (w.existingOutputKeys source)) := by
  have hLinked (keyPrefix : Str) : ∀ token ∈ (w.listAnalytics keyPrefix).tokens, isBlank token = false :=
    w.paging.linked keyPrefix _
  refine (listAnalytics_reads _).bind (fun _ => _) fun usage hUsage => ?_
  cases hUsage
  refine (listMatches_reads source _ _ none [] (hLinked _)).bind (fun _ => _)
    fun found hFound => ?_
  cases hFound
  refine (listAnalytics_reads _).bind (fun _ => _) fun models hModels => ?_
  cases hModels
  refine (listMatches_reads source _ _ none _ (hLinked _)).bind (fun _ => _)
    fun found hFound => ?_
  cases hFound
  exact Reads.done _

end Specifications

end KiroIngest
