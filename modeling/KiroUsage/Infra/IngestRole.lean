import KiroUsage.Infra.IngestPipeline
import KiroUsage.Ingest.Dependence
import KiroUsage.Ingest.IngestServiceFactory

/-! The deployed ingest function: the environment that the pipeline gives it, the
requests that its calls make of AWS, and the policies that these are checked
against. -/
namespace KiroInfra

open Text Storage Execution Access KiroIngest

namespace IngestPipeline

variable (p : IngestPipeline)

/-- The environment of the function. The last variable is set by Lambda. -/
def environment (targetList name : Str) : Option Str :=
  [(analyticsBucketEnv, p.analyticsBucket), (targetListParameterEnv, targetList),
    (rawBucketEnv, p.rawBucket), (rawPrefixEnv, p.userReportPrefix),
    (functionNameEnv, p.functionName)].lookup name

def functionArn (functionName : Str) : Str :=
  "arn:aws:lambda:".toList ++ p.region ++ ':' :: p.account ++ ":function:".toList ++ functionName

def parameterArn (parameterName : Str) : Str :=
  "arn:aws:ssm:".toList ++ p.region ++ ':' :: p.account ++ ":parameter".toList ++ parameterName

def prefixKey : Str := "s3:prefix".toList

def parameterRequest (c : Configuration) : Request :=
  ⟨"ssm:GetParameter".toList, p.parameterArn c.targetListParameter.val, []⟩

/-- The call reads an object that is not there. -/
def readsMissing (w : World) : AwsCall → Bool
  | .getState key => (w.analytics.lookup key).isNone
  | .getRaw bucket key _ => !w.raw.any (fun version => version.bucket = bucket ∧ version.key = key)
  | _ => false

/-- What AWS asks of the policies for a call. A listing carries its prefix. -/
def requests (c : Configuration) (w : World) (call : AwsCall) : List Request :=
  match call with
  | .getState key =>
    readRequests "s3:GetObject".toList c.analyticsBucket.val key (readsMissing w call)
  | .getRaw bucket key none => readRequests "s3:GetObject".toList bucket key (readsMissing w call)
  | .getRaw bucket key (some _) =>
    readRequests "s3:GetObjectVersion".toList bucket key (readsMissing w call)
  | .getParameter => [p.parameterRequest c]
  | .listAnalytics keyPrefix _ =>
    [⟨"s3:ListBucket".toList, bucketArn c.analyticsBucket.val, [(prefixKey, keyPrefix)]⟩]
  | .putObject key => [⟨"s3:PutObject".toList, arnForObjects c.analyticsBucket.val key, []⟩]
  | .deleteObject key => [⟨"s3:DeleteObject".toList, arnForObjects c.analyticsBucket.val key, []⟩]
  | .listRaw _ =>
    [⟨"s3:ListBucket".toList, bucketArn c.rawBucket.val, [(prefixKey, c.rawPrefix.val)]⟩]
  | .invokeLambda _ => [⟨"lambda:InvokeFunction".toList, p.functionArn c.functionName.val, []⟩]

/-- The execution role may make the call. -/
def permits (c : Configuration) (w : World) (call : AwsCall) : Bool :=
  (p.requests c w call).all (permitted p.rolePolicies)

end IngestPipeline

/-- A source is the object that it was created for. -/
theorem identity_of_create {bucket key : Str} {versionId sequencer : Option Str}
    {source : IngestSource}
    (h : IngestSource.create bucket key versionId sequencer = .ok source) :
    source.bucket = bucket ∧ source.key = key := by
  unfold IngestSource.create at h
  split_ifs at h
  · cases h
    exact ⟨rfl, rfl⟩

section Permitted

variable {p : IngestPipeline} {targetList : Str} {c : Configuration}

/-- The function is configured with what the pipeline creates. -/
structure Deployed (p : IngestPipeline) (targetList : Str) (c : Configuration) : Prop where
  analyticsBucket : c.analyticsBucket.val = p.analyticsBucket
  targetListParameter : c.targetListParameter.val = targetList
  rawBucket : c.rawBucket.val = p.rawBucket
  rawPrefix : c.rawPrefix.val = p.userReportPrefix
  functionName : c.functionName.val = p.functionName

theorem deployed_of_environment (h : fromEnvironment (p.environment targetList) = .ok c) :
    Deployed p targetList c := by
  obtain ⟨hAnalytics, hTargets, hRaw, hPrefix, hName⟩ := fromEnvironment_eq_ok.mp h
  exact ⟨(Option.some.inj hAnalytics).symm, (Option.some.inj hTargets).symm,
    (Option.some.inj hRaw).symm, (Option.some.inj hPrefix).symm, (Option.some.inj hName).symm⟩

/-- A pattern for the objects in a directory matches each of them. -/
theorem like_arnForObjects (bucket directory : Str) {key : Str} (h : directory <+: key) :
    like (arnForObjects bucket (directory ++ ['*'])) (arnForObjects bucket key) = true := by
  obtain ⟨rest, rfl⟩ := h
  have hLike := like_append_star (arnForObjects bucket directory) rest
  simpa only [arnForObjects, List.append_assoc, List.cons_append] using hLike

theorem like_of_leading {directory key : Str} (h : directory <+: key) :
    like (directory ++ ['*']) key = true := by
  obtain ⟨rest, rfl⟩ := h
  exact like_append_star directory rest

/-- The directories that the role may edit. -/
def editedDirectories : List Str :=
  [usageDailyPrefix ++ ['/'], modelMessagesPrefix ++ ['/'], statePrefix ++ ['/']]

theorem editAnalytics_resources (p : IngestPipeline) : p.editAnalyticsStatement.resources =
    editedDirectories.map fun directory => arnForObjects p.analyticsBucket (directory ++ ['*']) :=
  rfl

theorem edit_permitted {action : Str}
    (hAction : action ∈ p.editAnalyticsStatement.actions) {directory key : Str}
    (hDirectory : directory ∈ editedDirectories) (hKey : directory <+: key) :
    permitted p.rolePolicies ⟨action, arnForObjects p.analyticsBucket key, []⟩ = true := by
  have hAllows : p.editAnalyticsStatement.allows
      ⟨action, arnForObjects p.analyticsBucket key, []⟩ = true :=
    allows_of_mem hAction (editAnalytics_resources p ▸ List.mem_map_of_mem hDirectory)
      (like_arnForObjects _ _ hKey) rfl
  refine permitted_of_mem (List.mem_append_left _ ?_) hAllows
  simp

/-- The objects of a source lie in the directories that the role may edit. -/
theorem directory_of_owned {source : IngestSource} {key : Str} (h : owned source key = true) :
    ∃ directory ∈ editedDirectories, directory <+: key := by
  have hFact := isFactKey_of_owned h
  rw [isFactKey, Bool.or_eq_true, List.isPrefixOf_iff_prefix, List.isPrefixOf_iff_prefix] at hFact
  rcases hFact with hFact | hFact
  · exact ⟨_, List.mem_cons_self, hFact⟩
  · exact ⟨_, List.mem_cons_of_mem _ List.mem_cons_self, hFact⟩

theorem directory_stateKey (source : IngestSource) :
    statePrefix ++ ['/'] ∈ editedDirectories ∧ statePrefix ++ ['/'] <+: stateKey source := by
  refine ⟨by simp [editedDirectories], ?_⟩
  exact ⟨ReportTransform.sourceId source.bucket source.key ++ ".json".toList, by
    simp only [stateKey, List.append_assoc, List.cons_append, List.nil_append]⟩

theorem readRaw_permitted {action key : Str} (hAction : action ∈ p.readRawStatement.actions)
    (hKey : p.userReportPrefix <+: key) :
    permitted p.rolePolicies ⟨action, arnForObjects p.rawBucket key, []⟩ = true := by
  have hAllows : p.readRawStatement.allows ⟨action, arnForObjects p.rawBucket key, []⟩ = true :=
    allows_of_mem hAction List.mem_cons_self (like_arnForObjects _ _ hKey) rfl
  refine permitted_of_mem (List.mem_append_left _ ?_) hAllows
  simp

/-- A listing under one of the prefixes of a statement's condition. -/
theorem list_permitted {bucket keyPrefix pattern : Str} {prefixes : List Str}
    (hMem : (⟨["s3:ListBucket".toList], [bucketArn bucket],
      [(IngestPipeline.prefixKey, prefixes)]⟩ : Statement) ∈ p.rolePolicies)
    (hPattern : pattern ∈ prefixes) (hLike : like pattern keyPrefix = true) :
    permitted p.rolePolicies ⟨"s3:ListBucket".toList, bucketArn bucket,
      [(IngestPipeline.prefixKey, keyPrefix)]⟩ = true := by
  have hCondition : prefixes.any (like · keyPrefix) = true := List.any_eq_true.mpr ⟨_, hPattern, hLike⟩
  refine permitted_of_mem hMem ?_
  simp [Statement.allows, conditionMatches, like_self, hCondition]

/-- The sources of the user reports. -/
def IngestPipeline.Reports (p : IngestPipeline) (source : IngestSource) : Prop :=
  source.bucket = p.rawBucket ∧ p.userReportPrefix <+: source.key

/-- Of two requests for a read the second is refused, and it is made for missing objects. -/
theorem read_permitted_iff
    (hGranted : ∀ statement ∈ p.granted,
      statement.actions.any (like · "s3:ListBucket".toList) = false)
    {action bucketName key : Str} {missing : Bool}
    (h : permitted p.rolePolicies ⟨action, arnForObjects bucketName key, []⟩ = true) :
    (readRequests action bucketName key missing).all (permitted p.rolePolicies) = true ↔
      missing = false := by
  cases missing with
  | true => simp [readRequests_of_missing hGranted]
  | false => simp [readRequests, h]

theorem edited_permitted (hDeployed : Deployed p targetList c) {action : Str}
    (hAction : action ∈ p.editAnalyticsStatement.actions) {key : Str}
    (h : ∃ directory ∈ editedDirectories, directory <+: key) :
    permitted p.rolePolicies ⟨action, arnForObjects c.analyticsBucket.val key, []⟩ = true := by
  obtain ⟨directory, hDirectory, hKey⟩ := h
  rw [hDeployed.analyticsBucket]
  exact edit_permitted hAction hDirectory hKey

/-- Of the calls of an invocation for user reports, the role forbids the reads of missing
objects and no others. -/
theorem permits_iff (hDeployed : Deployed p targetList c)
    (hParameter : permitted p.granted (p.parameterRequest c) = true)
    (hGranted : ∀ statement ∈ p.granted,
      statement.actions.any (like · "s3:ListBucket".toList) = false)
    {tokens : Option Str → Prop} {call : AwsCall} (h : Touches ⟨p.Reports, tokens⟩ call) (w : World) :
    p.permits c w call = true ↔ IngestPipeline.readsMissing w call = false := by
  have hSingle {request : Request} (hRequest : permitted p.rolePolicies request = true) :
      [request].all (permitted p.rolePolicies) = true ↔ false = false := by
    simp [hRequest]
  cases call with
  | getState key =>
      obtain ⟨source, _, rfl⟩ := h
      exact read_permitted_iff hGranted
        (edited_permitted hDeployed List.mem_cons_self ⟨_, directory_stateKey source⟩)
  | getRaw bucket key versionId =>
      obtain ⟨source, ⟨hBucket, hKey⟩, rfl, rfl, rfl⟩ := h
      rw [hBucket]
      cases source.versionId with
      | none => exact read_permitted_iff hGranted (readRaw_permitted List.mem_cons_self hKey)
      | some _ =>
          have hAction : "s3:GetObjectVersion".toList ∈ p.readRawStatement.actions :=
            List.mem_cons_of_mem _ List.mem_cons_self
          exact read_permitted_iff hGranted (readRaw_permitted hAction hKey)
  | getParameter =>
      apply hSingle
      rw [permitted, IngestPipeline.rolePolicies, List.any_append, Bool.or_eq_true]
      exact Or.inr hParameter
  | listAnalytics keyPrefix token =>
      have hPattern : keyPrefix ++ ['*'] ∈ ["usage_daily/*".toList, "model_messages/*".toList] := by
        rcases List.mem_cons.mp h with rfl | h
        · exact List.mem_cons_self
        · rw [List.mem_singleton.mp h]
          exact List.mem_cons_of_mem _ List.mem_cons_self
      have hMem : p.listAnalyticsStatement ∈ p.rolePolicies := List.mem_append_left _ (by simp)
      apply hSingle
      rw [hDeployed.analyticsBucket]
      exact list_permitted hMem hPattern (like_of_leading (List.prefix_refl keyPrefix))
  | putObject key =>
      have hAction : "s3:PutObject".toList ∈ p.editAnalyticsStatement.actions :=
        List.mem_cons_of_mem _ List.mem_cons_self
      apply hSingle
      obtain ⟨source, _, hOwned | rfl⟩ := h
      · exact edited_permitted hDeployed hAction (directory_of_owned hOwned)
      · exact edited_permitted hDeployed hAction ⟨_, directory_stateKey source⟩
  | deleteObject key =>
      have hAction : "s3:DeleteObject".toList ∈ p.editAnalyticsStatement.actions :=
        List.mem_cons_of_mem _ (List.mem_cons_of_mem _ List.mem_cons_self)
      obtain ⟨source, _, hOwned⟩ := h
      exact hSingle (edited_permitted hDeployed hAction (directory_of_owned hOwned))
  | listRaw token =>
      have hMem : p.listRawStatement ∈ p.rolePolicies := List.mem_append_left _ (by simp)
      apply hSingle
      rw [hDeployed.rawBucket, hDeployed.rawPrefix]
      exact list_permitted hMem List.mem_cons_self (like_of_leading (List.prefix_refl _))
  | invokeLambda payload =>
      have hMem : p.invokeStatement ∈ p.rolePolicies := List.mem_append_left _ (by simp)
      apply hSingle
      rw [hDeployed.functionName]
      exact permitted_of_mem hMem (allows_of_mem List.mem_cons_self List.mem_cons_self
        (like_self _) rfl)

end Permitted

/-- Plans that agree on all requests in a scope cannot be told apart, as long as the raw
listing is that of the given world. -/
theorem respects_same {s : IngestService} {scope : Scope} {plan plan' : FaultPlan} {w : World}
    (hPlans : ∀ calls call, Touches scope call → plan calls call = plan' calls call)
    (hListed : ∀ token, scope.tokens token → ∀ key ∈ (w.rawListing token).s3Objects.getD [],
      ∀ source, IngestSource.create s.rawBucket key none none = .ok source →
        scope.sources source) :
    RespectsPages s scope plan plan'
      (fun after after' => after = after' ∧ after.rawListing = w.rawListing) := by
  refine ⟨⟨hPlans, ?_, ?_, ?_, ?_, ?_, ?_, ?_, ?_⟩, ?_, ?_, ?_⟩
  · rintro after _ ⟨rfl, hListing⟩ event
    exact ⟨rfl, hListing⟩
  · rintro after _ ⟨rfl, hListing⟩ event
    exact ⟨rfl, hListing⟩
  · rintro after _ ⟨rfl, _⟩ source _
    rfl
  · rintro after _ ⟨rfl, _⟩ source _
    rfl
  · rintro after _ ⟨rfl, _⟩
    rfl
  · rintro after _ ⟨rfl, _⟩ keyPrefix _
    rfl
  · rintro after _ ⟨rfl, hListing⟩ key body _
    exact ⟨rfl, hListing⟩
  · rintro after _ ⟨rfl, hListing⟩ key _
    exact ⟨rfl, hListing⟩
  · rintro after _ ⟨rfl, _⟩ token _
    rfl
  · rintro after _ ⟨rfl, hListing⟩ token hToken key hKey
    rw [hListing] at hKey
    exact hListed token hToken key hKey
  · rintro after _ ⟨rfl, hListing⟩ payload
    exact ⟨rfl, hListing⟩

/-- The role suffices but for reads of objects that are not there: of the calls that an
invocation can make these alone are forbidden, and two plans that treat them and the
permitted calls alike lead to the same run. The events are those of the bucket
notification, which names user reports, and S3 lists what is under the prefix that it
is asked for. -/
theorem IngestPipeline.role_suffices (p : IngestPipeline) {targetList : Str} {c : Configuration}
    (hConfigured : fromEnvironment (p.environment targetList) = .ok c)
    (hParameter : permitted p.granted (p.parameterRequest c) = true)
    (hGranted : ∀ statement ∈ p.granted,
      statement.actions.any (like · "s3:ListBucket".toList) = false) (f : KiroIngest.Function)
    (hService : f.ingest = c.service f.ingest.platform) {input : Json} {w : World}
    (hEvent : ∀ source, f.Notifies input source → p.Reports source)
    (hListing : ∀ token, Asks input token → ∀ key ∈ (w.rawListing token).s3Objects.getD [],
      p.userReportPrefix <+: key) :
    (∀ call, Touches ⟨p.Reports, Asks input⟩ call → ∀ after,
      p.permits c after call = true ↔ readsMissing after call = false) ∧
    ∀ plan plan', (∀ calls call, p.permits c w call = true ∨ readsMissing w call = true →
        plan calls call = plan' calls call) →
      ∀ calls, f.handleAsync input plan calls w = f.handleAsync input plan' calls w := by
  have hDeployed := deployed_of_environment hConfigured
  have hBucket : f.ingest.rawBucket = p.rawBucket := by
    rw [hService]
    exact hDeployed.rawBucket
  have hPermits (call : AwsCall) (hTouches : Touches ⟨p.Reports, Asks input⟩ call) (after : World) :=
    permits_iff hDeployed hParameter hGranted hTouches after
  refine ⟨hPermits, fun plan plan' hPlans calls => ?_⟩
  have hAlike : ∀ calls call, Touches ⟨p.Reports, Asks input⟩ call →
      plan calls call = plan' calls call := by
    intro calls call hTouches
    apply hPlans
    rw [hPermits call hTouches w]
    exact (IngestPipeline.readsMissing w call).eq_false_or_eq_true.symm
  have hRespects : RespectsPages f.ingest ⟨p.Reports, Asks input⟩ plan plan' _ :=
    respects_same hAlike fun token hToken key hKey source hSource => by
      obtain ⟨hSourceBucket, hSourceKey⟩ := identity_of_create hSource
      exact ⟨hSourceBucket.trans hBucket, hSourceKey ▸ hListing token hToken key hKey⟩
  exact (hRespects.handleAsync hEvent fun _ hAsked => hAsked).run_eq rfl calls

section Example

/-- What the function reads from its environment under the example's pipeline. -/
def exampleConfiguration : Configuration where
  analyticsBucket := ⟨examplePipeline.analyticsBucket, by decide⟩
  targetListParameter := ⟨['/', 't'], by decide⟩
  rawBucket := ⟨examplePipeline.rawBucket, by decide⟩
  rawPrefix := ⟨examplePipeline.userReportPrefix, by decide⟩
  functionName := ⟨examplePipeline.functionName, by decide⟩

theorem exampleConfiguration_read :
    fromEnvironment (examplePipeline.environment ['/', 't']) = .ok exampleConfiguration :=
  fromEnvironment_eq_ok.mpr ⟨rfl, rfl, rfl, rfl, rfl⟩

def exampleUserReport : Str := examplePipeline.userReportPrefix ++ "k.csv".toList

theorem exampleUserReport_valid : isBlank exampleUserReport = false := by decide

def exampleNotice : S3Record := ⟨some ['b'], some ⟨some exampleUserReport, none, some ['1']⟩⟩

theorem exampleNotice_source : exampleNotice.source examplePlatform =
    IngestSource.create ['b'] exampleUserReport none (some ['1']) :=
  rfl

/-- The deployed function, whose events all name one user report. -/
def exampleDeployed : KiroIngest.Function :=
  ⟨exampleConfiguration.service examplePlatform, fun _ => .ok (some (some [exampleNotice]))⟩

theorem exampleDeployed_reports (input : Json) (source : IngestSource)
    (h : exampleDeployed.Notifies input source) : examplePipeline.Reports source := by
  obtain ⟨records, hRecords, record, hRecord, hSource⟩ := h
  cases hRecords
  rw [List.mem_singleton.mp hRecord] at hSource
  obtain ⟨hBucket, hKey⟩ := identity_of_create (exampleNotice_source.symm.trans hSource)
  exact ⟨hBucket, hKey ▸ List.prefix_append _ _⟩

/-- The report as its event names it. -/
def exampleReported : IngestSource :=
  ⟨['b'], exampleUserReport, none, some ['1'], exampleSource.bucket_valid, exampleUserReport_valid,
    exampleSequencer_valid⟩

/-- The report is there, and an earlier version of it has been ingested. -/
def exampleIngested : World :=
  exampleWorld [⟨['b'], exampleUserReport, ['1'], exampleReport ['a']⟩]
    (AList.insert (stateKey exampleReported) (.sequencerState (some ['0'])) ∅)

/-- Whatever the role does not permit is denied, but for missing objects, and nothing else
goes wrong. -/
def deniedPlan (p : IngestPipeline) (c : Configuration) (w : World) : FaultPlan := fun _ call =>
  if p.permits c w call = true ∨ IngestPipeline.readsMissing w call = true then .pass
  else .fail accessDenied false

/-- The saved sequencer may be read where it is there, and the run is then that of a
function whose requests are never checked. -/
theorem role_suffices_example :
    examplePipeline.permits exampleConfiguration exampleIngested
        (.getState (stateKey exampleReported)) = true ∧
      examplePipeline.permits exampleConfiguration exampleUntouched
        (.getState (stateKey exampleReported)) ≠ true ∧
      exampleDeployed.handleAsync exampleNotification Plan.healthy 0 exampleIngested =
        exampleDeployed.handleAsync exampleNotification
          (deniedPlan examplePipeline exampleConfiguration exampleIngested) 0 exampleIngested := by
  have hParameter : permitted examplePipeline.granted
      (examplePipeline.parameterRequest exampleConfiguration) = true := by
    decide
  have hListing : ∀ token, Asks exampleNotification token →
      ∀ key ∈ (exampleIngested.rawListing token).s3Objects.getD [],
        examplePipeline.userReportPrefix <+: key := by
    rintro token ⟨_, ⟨⟩, hMode, _⟩
    cases hMode
  have hReports : examplePipeline.Reports exampleReported := ⟨rfl, List.prefix_append _ _⟩
  obtain ⟨hPermits, hSame⟩ := examplePipeline.role_suffices exampleConfiguration_read hParameter
    examplePipeline_granted exampleDeployed rfl (exampleDeployed_reports _) hListing
  have hRead (after : World) := hPermits (.getState (stateKey exampleReported))
    ⟨exampleReported, hReports, rfl⟩ after
  have hSaved : exampleIngested.analytics.lookup (stateKey exampleReported) =
      some (.sequencerState (some ['0'])) := AList.lookup_insert _
  have hAbsent : exampleUntouched.analytics.lookup (stateKey exampleReported) = none :=
    AList.lookup_empty _
  refine ⟨(hRead _).mpr ?_, fun hPermitted => ?_, hSame _ _ (fun calls call hAlike => ?_) 0⟩
  · rw [IngestPipeline.readsMissing, hSaved, Option.isNone_some]
  · have hMissing := (hRead _).mp hPermitted
    rw [IngestPipeline.readsMissing, hAbsent] at hMissing
    cases hMissing
  · exact (if_pos hAlike).symm

end Example

end KiroInfra
