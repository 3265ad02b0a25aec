import KiroUsage.Access.Policies
import KiroUsage.Ingest.Reconciliation

/-! The execution role of the ingest function, and what it makes of a request
for a state object. The code takes a missing object for an event without a saved
sequencer; the role's listing permissions decide whether S3 says that an object
is missing at all. -/
namespace KiroInfra

open Text Storage Execution Access KiroIngest

def arnPrefix : Str := "arn:aws:s3:::".toList

/-- `BucketArn`. -/
def bucketArn (bucketName : Str) : Str := arnPrefix ++ bucketName

/-- `ArnForObjects`. -/
def arnForObjects (bucketName keyPattern : Str) : Str := bucketArn bucketName ++ '/' :: keyPattern

/-- The ingest pipeline of one account. `granted` are the statements of the CDK
for the function's logs and of its grants on keys, the parameter and the queue. -/
structure IngestPipeline where
  account : Str
  region : Str
  rawBucket : Str
  analyticsBucket : Str
  granted : List Statement

namespace IngestPipeline

variable (p : IngestPipeline)

def functionName : Str := "kiro-ingest-".toList ++ p.account

def userReportPrefix : Str := "AWSLogs/".toList ++ p.account ++ "/KiroLogs/user_report/".toList

def readRawStatement : Statement where
  actions := ["s3:GetObject".toList, "s3:GetObjectVersion".toList]
  resources := [arnForObjects p.rawBucket (p.userReportPrefix ++ ['*'])]

def listRawStatement : Statement where
  actions := ["s3:ListBucket".toList]
  resources := [bucketArn p.rawBucket]
  stringLike := [("s3:prefix".toList, [p.userReportPrefix ++ ['*']])]

/-- Curated facts and sequencer state. -/
def editAnalyticsStatement : Statement where
  actions := ["s3:GetObject".toList, "s3:PutObject".toList, "s3:DeleteObject".toList]
  resources :=
    [arnForObjects p.analyticsBucket "usage_daily/*".toList,
      arnForObjects p.analyticsBucket "model_messages/*".toList,
      arnForObjects p.analyticsBucket "ingest-state/*".toList]

/-- Listing is confined to the two prefixes that the reconciler scans. -/
def listAnalyticsStatement : Statement where
  actions := ["s3:ListBucket".toList]
  resources := [bucketArn p.analyticsBucket]
  stringLike := [("s3:prefix".toList, ["usage_daily/*".toList, "model_messages/*".toList])]

def invokeStatement : Statement where
  actions := ["lambda:InvokeFunction".toList]
  resources := ["arn:aws:lambda:".toList ++ p.region ++ ':' :: p.account ++ ":function:".toList ++
    p.functionName]

/-- The policies of the execution role. -/
def rolePolicies : List Statement :=
  [p.readRawStatement, p.listRawStatement, p.editAnalyticsStatement, p.listAnalyticsStatement,
    p.invokeStatement] ++ p.granted

end IngestPipeline

/-- What S3 asks of the policies before it answers a read: only a caller that may list
the bucket is told that a key is missing. A read carries no prefix. -/
def readRequests (action bucketName key : Str) (missing : Bool) : List Request :=
  ⟨action, arnForObjects bucketName key, []⟩ ::
    if missing then [⟨"s3:ListBucket".toList, bucketArn bucketName, []⟩] else []

def accessDenied : CallFailure := ⟨.amazonS3 403 "AccessDenied".toList, rfl⟩

/-- What S3 does to a request for an object of the analytics bucket. -/
def authorization (p : IngestPipeline) (w : World) (key : Str) : Fault CallFailure :=
  if (readRequests "s3:GetObject".toList p.analyticsBucket key
      (w.analytics.lookup key).isNone).all (permitted p.rolePolicies) then .pass
  else .fail accessDenied false

/-- A plan in which S3 answers requests for state objects under the role, as
long as the analytics bucket is that of the given world. -/
def Authorizes (p : IngestPipeline) (w : World) (plan : FaultPlan) : Prop :=
  ∀ calls key, plan calls (.getState key) = authorization p w key

section Role

variable {p : IngestPipeline} {w : World} {plan : FaultPlan}

/-- The actions that the role may take without naming a prefix are no listings. -/
theorem unconditioned_actions :
    (["s3:GetObject".toList, "s3:GetObjectVersion".toList, "s3:PutObject".toList,
      "s3:DeleteObject".toList, "lambda:InvokeFunction".toList].any
        (like · "s3:ListBucket".toList)) = false := by
  decide

/-- The role may list no bucket without naming a prefix. -/
theorem listing_not_permitted
    (hGranted : ∀ statement ∈ p.granted,
      statement.actions.any (like · "s3:ListBucket".toList) = false) (bucketName : Str) :
    permitted p.rolePolicies ⟨"s3:ListBucket".toList, bucketArn bucketName, []⟩ = false := by
  have hActions {statement : Statement} (h : ∀ action ∈ statement.actions, action ∈
      ["s3:GetObject".toList, "s3:GetObjectVersion".toList, "s3:PutObject".toList,
        "s3:DeleteObject".toList, "lambda:InvokeFunction".toList]) :
      statement.allows ⟨"s3:ListBucket".toList, bucketArn bucketName, []⟩ = false :=
    not_allows_of_actions (List.any_eq_false.mpr fun action hm =>
      List.any_eq_false.mp unconditioned_actions action (h action hm))
  refine not_permitted fun statement hm => ?_
  simp only [IngestPipeline.rolePolicies, List.mem_append, List.mem_cons, List.not_mem_nil,
    or_false] at hm
  rcases hm with (rfl | rfl | rfl | rfl | rfl) | hm
  · exact hActions (by simp [IngestPipeline.readRawStatement])
  · exact not_allows_of_condition (List.mem_cons_self ..) rfl
  · exact hActions (by simp [IngestPipeline.editAnalyticsStatement])
  · exact not_allows_of_condition (List.mem_cons_self ..) rfl
  · exact hActions (by simp [IngestPipeline.invokeStatement])
  · exact not_allows_of_actions (hGranted statement hm)

/-- A read of a missing object is refused. -/
theorem readRequests_of_missing
    (hGranted : ∀ statement ∈ p.granted,
      statement.actions.any (like · "s3:ListBucket".toList) = false) (action bucketName key : Str) :
    (readRequests action bucketName key true).all (permitted p.rolePolicies) = false := by
  simp only [readRequests, if_true, List.all_cons, listing_not_permitted hGranted, Bool.false_and,
    Bool.and_false]

/-- S3 never says that a state object is missing. -/
theorem authorization_of_absent
    (hGranted : ∀ statement ∈ p.granted,
      statement.actions.any (like · "s3:ListBucket".toList) = false)
    (source : IngestSource) (hAbsent : w.analytics.lookup (stateKey source) = none) :
    authorization p w (stateKey source) = .fail accessDenied false := by
  rw [authorization, hAbsent, Option.isNone_none, readRequests_of_missing hGranted]
  rfl

end Role

section Denied

variable {plan : FaultPlan} {source : IngestSource}
  (hDenied : ∀ calls, plan calls (.getState (stateKey source)) = .fail accessDenied false)

include hDenied

/-- The handler for missing objects lets a denied request through. -/
theorem readSequencerAsync_denied {pre : World → Prop} :
    Triple plan pre (readSequencerAsync source)
      ⟨fun _ _ => False, fun error w => error = accessDenied.error ∧ pre w, fun _ => False⟩ := by
  refine Triple.catching (fun error w => error = accessDenied.error ∧ pre w) ?_ fun error => ?_
  · exact Triple.failing hDenied fun w h => ⟨rfl, h⟩
  · refine Triple.assuming (fun _ h => h.1) fun hError => ?_
    rw [hError, if_neg (by decide)]
    exact Triple.throwing _ fun _ h => ⟨rfl, h.2⟩

theorem tryProcessCsv_denied (s : IngestService) {sequencer : Str}
    (hSequencer : source.sequencer = some sequencer) {pre : World → Prop} :
    Triple plan (fun st => pre st.1 ∧ st.2 = ({} : Bookkeeping)) (s.tryProcessCsv source)
      ⟨fun _ _ => False, fun _ st => pre st.1 ∧ st.2 = ({} : Bookkeeping), fun _ => False⟩ := by
  refine Triple.bind (fun _ _ => False) (Triple.lift ({} : Bookkeeping) ?_) fun _ _ _ h => h.elim
  unfold isStaleEventAsync
  rw [hSequencer]
  refine Triple.bind (fun _ _ => False) ?_ fun _ _ _ h => h.elim
  exact (readSequencerAsync_denied hDenied).consequence (fun _ h => h) nofun
    (fun _ _ h => ⟨h.2, rfl⟩) nofun

/-- The event is rejected before anything else is read or written. -/
theorem processCsvAsync_denied (s : IngestService) {sequencer : Str}
    (hSequencer : source.sequencer = some sequencer) (before : World) :
    Triple plan (· = before) (s.processCsvAsync source)
      ⟨fun _ _ => False, fun _ => Quiet (before.recordProcessing source), fun _ => False⟩ := by
  refine Triple.bind (fun _ => Quiet (before.recordProcessing source))
    (Triple.modify _ fun w hEq => by rw [hEq]; exact Quiet.refl _) fun _ => ?_
  refine Triple.catchingWith
    (fun vars _ w => Quiet (before.recordProcessing source) w ∧ vars = ({} : Bookkeeping))
    ((tryProcessCsv_denied hDenied s hSequencer).consequence (fun _ h => h) nofun
      (fun _ _ h => h) nofun) fun vars error => ?_
  refine Triple.assuming (fun _ h => h.2) fun hVars => ?_
  rw [hVars]
  exact (failClosed_quiet error (Or.inl rfl)).strengthen fun _ h => h.1

end Denied

/-- The role rejects the first event of every source: the read of its absent
state throws, and nothing is published. -/
theorem IngestPipeline.first_event_rejected (p : IngestPipeline)
    (hGranted : ∀ statement ∈ p.granted,
      statement.actions.any (like · "s3:ListBucket".toList) = false)
    (s : IngestService) (source : IngestSource) {sequencer : Str}
    (hSequencer : source.sequencer = some sequencer) (w : World) {plan : FaultPlan}
    (hPlan : Authorizes p w plan) (hAbsent : w.analytics.lookup (stateKey source) = none)
    (calls : Nat) :
    (readSequencerAsync source plan calls w).outcome = .threw accessDenied.error ∧
      (∃ error, (s.processCsvAsync source plan calls w).outcome = .threw error) ∧
      (s.processCsvAsync source plan calls w).state.analytics = w.analytics := by
  have hDenied (calls : Nat) : plan calls (.getState (stateKey source)) = .fail accessDenied false := by
    rw [hPlan, authorization_of_absent hGranted source hAbsent]
  constructor
  · have hTriple : Triple plan (· = w) (readSequencerAsync source) _ :=
      readSequencerAsync_denied hDenied
    obtain ⟨_, _, hNever⟩ | ⟨error, hThrew, hError, _⟩ | ⟨_, hNever⟩ := hTriple.ends calls
    · exact hNever.elim
    · rw [hThrew, hError]
    · exact hNever.elim
  · obtain ⟨_, _, hNever⟩ | ⟨error, hThrew, hQuiet⟩ | ⟨_, hNever⟩ :=
      (processCsvAsync_denied hDenied s hSequencer w).ends calls
    · exact hNever.elim
    · exact ⟨⟨error, hThrew⟩, hQuiet.analytics⟩
    · exact hNever.elim

section Example

/-- A pipeline with the statements of the CDK's grants. -/
def examplePipeline : IngestPipeline where
  account := ['1']
  region := ['r']
  rawBucket := ['b']
  analyticsBucket := ['a']
  granted :=
    [⟨["logs:CreateLogGroup".toList, "logs:CreateLogStream".toList, "logs:PutLogEvents".toList],
        [['*']], []⟩,
      ⟨["ssm:DescribeParameters".toList, "ssm:GetParameters".toList, "ssm:GetParameter".toList,
        "ssm:GetParameterHistory".toList], [['*']], []⟩,
      ⟨["sqs:SendMessage".toList, "sqs:GetQueueAttributes".toList, "sqs:GetQueueUrl".toList],
        [['*']], []⟩]

theorem examplePipeline_granted : ∀ statement ∈ examplePipeline.granted,
    statement.actions.any (like · "s3:ListBucket".toList) = false := by
  have h : examplePipeline.granted.all
      (fun statement => !statement.actions.any (like · "s3:ListBucket".toList)) = true := by
    decide
  simpa using h

theorem exampleSequencer_valid : ∀ s ∈ some ['1'], isSequencer s = true := by
  rintro s ⟨⟩
  rfl

/-- The first event of an object. -/
def exampleFirstEvent : IngestSource :=
  ⟨['b'], ['k'], some ['1'], some ['1'], exampleSource.bucket_valid, exampleSource.key_valid,
    exampleSequencer_valid⟩

/-- The report of the event is there, and nothing has been ingested yet. -/
def exampleUntouched : World := exampleWorld [⟨['b'], ['k'], ['1'], exampleReport ['a']⟩] ∅

/-- S3 under the role. No other call goes wrong. -/
def rolePlan (p : IngestPipeline) (w : World) : FaultPlan
  | _, .getState key => authorization p w key
  | _, _ => .pass

theorem first_event_rejected_example :
    (readSequencerAsync exampleFirstEvent (rolePlan examplePipeline exampleUntouched) 0
      exampleUntouched).outcome = .threw accessDenied.error :=
  (examplePipeline.first_event_rejected examplePipeline_granted exampleService exampleFirstEvent rfl
    exampleUntouched (fun _ _ => rfl) (AList.lookup_empty _) 0).1

/-- The very first event of the example is not processed, although its report
would be accepted. -/
theorem first_event_lost :
    exampleFirstEvent.sequencer = some ['1'] ∧
      exampleUntouched.analytics.lookup (stateKey exampleFirstEvent) = none ∧
      (exampleService.transformed exampleFirstEvent exampleUntouched).toOption =
        some (exampleResult ['a']) ∧
      (readSequencerAsync exampleFirstEvent (rolePlan examplePipeline exampleUntouched) 0
        exampleUntouched).outcome.hasReturned = false := by
  exact ⟨rfl, AList.lookup_empty _, by decide, by decide⟩

end Example

end KiroInfra
