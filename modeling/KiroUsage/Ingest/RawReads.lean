import KiroUsage.Ingest.Reading
import KiroUsage.Semantics.Agreement

/-! The one request of a run that is not for the function's own bookkeeping: the
read of the raw object. Nothing else in a run asks for raw objects, so two plans
that differ only there and agree on that one read give the same run. -/
namespace KiroIngest

open Text Storage Execution

/-- The requests for the content of a raw object. -/
def AwsCall.isRawRead : AwsCall → Bool
  | getRaw .. => true
  | _ => false

/-- All calls succeed but reads of raw objects. -/
def OnlyRawFails (plan : FaultPlan) : Prop :=
  ∀ n request, plan n request = .pass ∨
    (AwsCall.isRawRead request = true ∧ ∃ cause applied, plan n request = .fail cause applied)

theorem onlyRawFails_healthy : OnlyRawFails Plan.healthy := fun _ _ => Or.inl rfl

/-- The program asks for no raw object. -/
abbrev RawFree {State α : Type} (program : Async AwsCall CallFailure State Exn α) : Prop :=
  Async.Within (fun request => request.isRawRead = false) program

section RawFree

theorem aws_rawFree {α : Type} {request : AwsCall} (action : World → Except Exn α × World)
    (h : request.isRawRead = false) : RawFree (aws request action) :=
  Async.Within.call h

theorem logLine_rawFree (event : LogEvent) : RawFree (logLine event) :=
  Async.Within.modify _

theorem putObject_rawFree (key : Str) (body : ObjectBody) : RawFree (putObject key body) := by
  unfold putObject awsUpdate
  exact aws_rawFree _ rfl

theorem deleteOutputAsync_rawFree (key : Str) : RawFree (deleteOutputAsync key) := by
  unfold deleteOutputAsync awsUpdate
  exact aws_rawFree _ rfl

theorem readSequencerAsync_rawFree (source : IngestSource) : RawFree (readSequencerAsync source) := by
  refine Async.Within.catching (aws_rawFree _ rfl) fun error => ?_
  split_ifs
  · exact Async.Within.done none
  · exact Async.Within.throwing error

theorem isStaleEventAsync_rawFree (source : IngestSource) : RawFree (isStaleEventAsync source) := by
  unfold isStaleEventAsync
  cases source.sequencer with
  | none => exact Async.Within.done false
  | some sequencer =>
      exact (readSequencerAsync_rawFree source).bind fun saved => Async.Within.ofExcept _

theorem warnOnKeyDateMismatch_rawFree (source : IngestSource) (result : TransformResult) :
    RawFree (warnOnKeyDateMismatch source result) := by
  unfold warnOnKeyDateMismatch
  cases extractDateFromKey source.key with
  | none => exact Async.Within.done ()
  | some keyDate =>
      dsimp only
      split_ifs
      · exact logLine_rawFree _
      · exact Async.Within.done ()

theorem listMatches_rawFree (source : IngestSource) (keyPrefix : Str) (listing : Listing Str Str)
    (token : Option Str) (found : List Str) :
    RawFree (listMatches source keyPrefix listing token found) := by
  induction listing generalizing token found with
  | last page =>
      refine Async.Within.bind (aws_rawFree _ rfl) fun response => ?_
      exact (Async.Within.ofExcept _).bind fun _ => Async.Within.done _
  | more page next rest ih =>
      refine Async.Within.bind (aws_rawFree _ rfl) fun response => ?_
      exact (Async.Within.ofExcept _).bind fun next => ih next _

theorem findExistingOutputKeysAsync_rawFree (source : IngestSource) :
    RawFree (findExistingOutputKeysAsync source) :=
  (Async.Within.inspect _).bind fun usage =>
    (listMatches_rawFree source _ usage none []).bind fun found =>
      (Async.Within.inspect _).bind fun models =>
        (listMatches_rawFree source _ models none found).bind fun _ => Async.Within.done _

theorem tryDeleteOutputsAsync_rawFree (keys : List Str) (source : IngestSource) :
    RawFree (tryDeleteOutputsAsync keys source) := by
  refine Async.Within.forEach fun key => ?_
  refine Async.Within.bind (deleteOutputAsync_rawFree key).attempt fun failure => ?_
  cases failure with
  | some cleanupError => exact logLine_rawFree _
  | none => exact Async.Within.done ()

theorem failClosed_rawFree (source : IngestSource) (vars : Bookkeeping) (error : Exn) :
    RawFree (failClosed source vars error) := by
  refine Async.Within.bind ?_ fun _ => (logLine_rawFree _).bind fun _ => Async.Within.throwing error
  unfold removeUnlessComplete
  split_ifs
  · exact tryDeleteOutputsAsync_rawFree _ source
  · exact Async.Within.done ()

theorem finishAsync_rawFree (source : IngestSource) (result : TransformResult) :
    RawFree (finishAsync source result) := by
  refine Async.Within.bind (Async.Within.modify _) fun _ =>
    Async.Within.bind ?_ fun _ => logLine_rawFree _
  unfold saveLiveSequencer
  cases source.sequencer with
  | some sequencer => exact putObject_rawFree _ _
  | none => exact Async.Within.done ()

theorem publishAsync_rawFree (source : IngestSource) (result : TransformResult)
    (outputs : List (Str × ObjectBody)) (existingOutputKeys : List Str) :
    RawFree (IngestService.publishAsync source result outputs existingOutputKeys) := by
  refine Async.Within.bind (Async.Within.bind (Async.Within.forEach fun output => ?_) fun _ =>
    Async.Within.forEach fun key => (deleteOutputAsync_rawFree key).lift) fun _ => ?_
  · exact (Async.Within.assign _).bind fun _ => (putObject_rawFree output.1 output.2).lift
  · exact (Async.Within.assign _).bind fun _ => (finishAsync_rawFree source result).lift

end RawFree

/-- How many calls the staleness check makes does not depend on the plan. -/
theorem isStaleEventAsync_calls (source : IngestSource) (plan : FaultPlan) (calls : Nat) (w : World) :
    (isStaleEventAsync source plan calls w).calls =
      calls + if source.sequencer.isSome then 1 else 0 := by
  unfold isStaleEventAsync
  cases source.sequencer with
  | none => rfl
  | some sequencer =>
      have hRead : (readSequencerAsync source plan calls w).calls = calls + 1 := by
        refine (Async.calls_catching fun error => ?_).trans Async.calls_call
        split_ifs
        · exact fun _ _ _ => rfl
        · exact fun _ _ _ => rfl
      exact (Async.calls_andThen fun _ => Async.silent_ofExcept _).trans hRead

/-- What happens to the read of the raw object in a run after these calls. A
live event asks for its state before. -/
def IngestSource.rawFault (source : IngestSource) (plan : FaultPlan) (calls : Nat) :
    Fault CallFailure :=
  plan (calls + if source.sequencer.isSome then 1 else 0)
    (.getRaw source.bucket source.key source.versionId)

theorem reconcileAsync_rest_rawFree (source : IngestSource) (result : TransformResult)
    (outputs : List (Str × ObjectBody)) :
    RawFree (do
      let existingOutputKeys ← Async.lift (findExistingOutputKeysAsync source)
      Async.assign fun vars : Bookkeeping => { vars with existingOutputKeys }
      IngestService.publishAsync source result outputs existingOutputKeys) :=
  (findExistingOutputKeysAsync_rawFree source).lift.bind fun existing =>
    (Async.Within.assign _).bind fun _ => publishAsync_rawFree source result outputs existing

theorem IngestService.prepareAsync_agrees (s : IngestService) (source : IngestSource)
    {plan plan' : FaultPlan} {calls : Nat} {w : World}
    (hOther : ∀ n request, AwsCall.isRawRead request = false → plan n request = plan' n request)
    (hRead : plan calls (.getRaw source.bucket source.key source.versionId) =
      plan' calls (.getRaw source.bucket source.key source.versionId)) :
    s.prepareAsync source plan calls w = s.prepareAsync source plan' calls w := by
  refine Async.andThen_congr (Async.call_congr hRead) fun csv calls' after _ => ?_
  have hRest : RawFree (do
      let targetList ← getTargetListAsync s.platform
      let result ← Async.ofExcept (ReportTransform.transform s.platform csv targetList)
      warnOnKeyDateMismatch source result
      return (result, prepareOutputs source result) : Ingest _) :=
    (aws_rawFree _ rfl : RawFree (getTargetListAsync s.platform)).bind fun targetList =>
      (Async.Within.ofExcept _).bind fun result =>
        (warnOnKeyDateMismatch_rawFree source result).bind fun _ => Async.Within.done _
  exact congrFun (congrFun (hRest _ _ hOther) _) _

/-- Plans that differ in no other requests and agree on the one read give the
same run. -/
theorem IngestService.processCsvAsync_agrees (s : IngestService) (source : IngestSource)
    {plan plan' : FaultPlan} {calls : Nat} {w : World}
    (hOther : ∀ n request, AwsCall.isRawRead request = false → plan n request = plan' n request)
    (hRead : source.rawFault plan calls = source.rawFault plan' calls) :
    s.processCsvAsync source plan calls w = s.processCsvAsync source plan' calls w := by
  unfold processCsvAsync
  have hRecorded : record (.processing source) plan calls w =
      record (.processing source) plan' calls w := rfl
  refine Async.andThen_congr hRecorded fun _ calls' before hBefore => ?_
  cases hBefore
  refine Async.catchingWith_congr ?_ fun vars error => failClosed_rawFree source vars error _ _ hOther
  refine Async.andThen_congr ?_ fun stale calls' st hStale => ?_
  · exact congrFun (congrFun ((isStaleEventAsync_rawFree source).lift _ _ hOther) _) _
  cases stale with
  | true => rfl
  | false =>
      have hCalls : calls' = calls + if source.sequencer.isSome then 1 else 0 := by
        have h := congrArg Result.calls hStale
        rw [Async.calls_lift, isStaleEventAsync_calls] at h
        exact h.symm
      subst hCalls
      refine Async.andThen_congr (Async.lift_congr (s.prepareAsync_agrees source hOther hRead))
        fun prepared calls' st' _ => ?_
      exact congrFun (congrFun
        (reconcileAsync_rest_rawFree source prepared.1 prepared.2 _ _ hOther) _) _

end KiroIngest
