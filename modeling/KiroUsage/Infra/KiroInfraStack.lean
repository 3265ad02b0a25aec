import KiroUsage.Infra.GrafanaWorkspace
import KiroUsage.Infra.IngestRole

/-! The stack of one account: its buckets, the expiration of query results, and the
two roles that work on the analytics bucket. Ingestion and dashboards share that
bucket, and this module says that they do not share an object. -/
namespace KiroInfra

open Text Storage Execution Access KiroIngest

/-- The stack in one account and region. `granted` and `managed` are statements that
the CDK and AWS add to the two roles. -/
structure KiroInfraStack where
  account : Str
  region : Str
  granted : List Statement
  managed : List Statement
  account_valid : account.all Char.isDigit = true
  region_valid : region.all (fun c => c.isLower || c.isDigit || c == '-') = true

namespace KiroInfraStack

variable (stack : KiroInfraStack)

/-- The name of a protected bucket. -/
def bucketName (nameSuffix : Str) : Str :=
  nameSuffix ++ '-' :: stack.account ++ '-' :: stack.region

def rawBucket : Str := stack.bucketName "kiro-usage-raw".toList

def analyticsBucket : Str := stack.bucketName "kiro-usage-analytics".toList

/-- The prefixes of the analytics bucket whose objects expire. -/
def lifecycleRules : List Str := ["athena-results/".toList]

def expires (key : Str) : Bool := lifecycleRules.any (·.isPrefixOf key)

def ingestPipeline : IngestPipeline where
  account := stack.account
  region := stack.region
  rawBucket := stack.rawBucket
  analyticsBucket := stack.analyticsBucket
  granted := stack.granted

def grafanaWorkspace : GrafanaWorkspace where
  account := stack.account
  region := stack.region
  analyticsBucket := stack.analyticsBucket
  managed := stack.managed

/-- Whether the ingest function may do this to an object. -/
def ingestMay (action bucketName key : Str) : Bool :=
  permitted stack.ingestPipeline.rolePolicies (objectRequest action bucketName key)

/-- Whether a query of a dashboard may do this to an object. -/
def dashboardsMay (action bucketName key : Str) : Bool :=
  permitted stack.grafanaWorkspace.dataSourcePolicies (objectRequest action bucketName key)

/-- A character of a bucket name. -/
def isNameCharacter (c : Char) : Bool := c.isLower || c.isDigit || c == '-'

theorem bucketName_characters {nameSuffix : Str} (h : nameSuffix.all isNameCharacter = true) :
    ∀ c ∈ stack.bucketName nameSuffix, isNameCharacter c = true := by
  have hAccount : stack.account.all isNameCharacter = true := by
    rw [List.all_eq_true]
    intro c hc
    simp [isNameCharacter, List.all_eq_true.mp stack.account_valid c hc]
  have hRegion : stack.region.all isNameCharacter = true := stack.region_valid
  have hAll : (stack.bucketName nameSuffix).all isNameCharacter = true := by
    simp only [bucketName, List.all_append, List.all_cons, h, hAccount, hRegion, Bool.and_true]
    rfl
  exact List.all_eq_true.mp hAll

theorem not_mem_bucketName {nameSuffix : Str} (h : nameSuffix.all isNameCharacter = true) {c : Char}
    (hc : isNameCharacter c = false) : c ∉ stack.bucketName nameSuffix := by
  intro hMem
  rw [stack.bucketName_characters h c hMem] at hc
  cases hc

theorem isLiteral_bucketName {nameSuffix : Str} (h : nameSuffix.all isNameCharacter = true) :
    IsLiteral (stack.bucketName nameSuffix) := by
  intro c hc
  constructor
  · rintro rfl
    exact stack.not_mem_bucketName h (by decide) hc
  · rintro rfl
    exact stack.not_mem_bucketName h (by decide) hc

theorem isLiteral_analyticsBucket : IsLiteral stack.analyticsBucket :=
  stack.isLiteral_bucketName (by decide)

/-- The buckets of the stack. -/
def buckets : List Str := [stack.analyticsBucket, stack.rawBucket]

theorem slash_not_mem_bucket {name : Str} (h : name ∈ stack.buckets) : '/' ∉ name := by
  rcases List.mem_pair.mp h with rfl | rfl
  · exact stack.not_mem_bucketName (by decide) (by decide)
  · exact stack.not_mem_bucketName (by decide) (by decide)

theorem analyticsBucket_ne_rawBucket : stack.analyticsBucket ≠ stack.rawBucket := by
  intro h
  have hHead := congrArg (fun name : Str => name[11]?) h
  simp [analyticsBucket, rawBucket, bucketName] at hHead

/-- The query layer of the stack. -/
def queryLayer : QueryLayer where
  analyticsBucket := stack.analyticsBucket
  analyticsBucket_valid := stack.not_mem_bucketName (by decide) (by decide)

/-- Where the work group stores query results. -/
def outputLocation : Str := QueryLayer.scheme ++ stack.analyticsBucket ++ "/athena-results/".toList

end KiroInfraStack

/-- The statements that the CDK grants to the function name no S3 action. -/
def GrantsNoObjects (granted : List Statement) : Prop :=
  ∀ statement ∈ granted, ∀ action ∈ [getAction, putAction, deleteAction],
    statement.actions.any (like · action) = false

/-- The managed policy permits S3 actions on buckets of its own prefix only. -/
def ManagedApart (managed : List Statement) : Prop :=
  ∀ statement ∈ managed,
    (∀ action ∈ [getAction, putAction, deleteAction],
      statement.actions.any (like · action) = false) ∨
    statement.resources = [bucketArn "grafana-athena-query-results-*".toList]

section Access

variable {stack : KiroInfraStack} {bucketName : Str}

/-- The directories that the ingest role edits hold the function's own objects. -/
theorem editedDirectories_iff (key : Str) :
    (∃ directory ∈ editedDirectories, directory <+: key) ↔ isIngestKey key = true := by
  simp only [editedDirectories, List.mem_cons, List.not_mem_nil, or_false, exists_eq_or_imp,
    exists_eq_left, isIngestKey, isFactKey, Bool.or_eq_true, List.isPrefixOf_iff_prefix, or_assoc]

/-- Decides whether directories have no wildcards. -/
theorem literal_of_all {directories : List Str}
    (h : directories.all (fun directory => directory.all fun c => c ≠ '*' && c ≠ '?') = true) :
    ∀ directory ∈ directories, IsLiteral directory :=
  fun directory hm => isLiteral_of_all (List.all_eq_true.mp h directory hm)

/-- Only the statement on the analytics objects lets the function write, and only there. -/
theorem ingestMay_iff (hGranted : GrantsNoObjects stack.granted) (hBucket : bucketName ∈ stack.buckets)
    {action : Str} (hAction : action = putAction ∨ action = deleteAction) (key : Str) :
    stack.ingestMay action bucketName key = true ↔
      stack.analyticsBucket = bucketName ∧ isIngestKey key = true := by
  let p := stack.ingestPipeline
  have hOther {statement : Statement}
      (h : (statement.actions.any (like · putAction) || statement.actions.any (like · deleteAction)) =
        false) : statement.allows (objectRequest action bucketName key) = false := by
    rw [Bool.or_eq_false_iff] at h
    apply not_allows_of_actions
    rcases hAction with rfl | rfl
    · exact h.1
    · exact h.2
  have hRest : ∀ statement ∈ p.granted,
      statement.allows (objectRequest action bucketName key) = false := by
    intro statement hm
    apply hOther
    rw [hGranted statement hm putAction (by simp), hGranted statement hm deleteAction (by simp)]
    rfl
  have hRead : p.readRawStatement.allows (objectRequest action bucketName key) = false := hOther rfl
  have hListRaw : p.listRawStatement.allows (objectRequest action bucketName key) = false := hOther rfl
  have hList : p.listAnalyticsStatement.allows (objectRequest action bucketName key) = false :=
    hOther rfl
  have hInvoke : p.invokeStatement.allows (objectRequest action bucketName key) = false := hOther rfl
  have hActions : p.editAnalyticsStatement.actions.any (like · action) = true := by
    rcases hAction with rfl | rfl
    · rfl
    · rfl
  have hEdit := allows_directories_iff (editAnalytics_resources p) rfl stack.isLiteral_analyticsBucket
    (literal_of_all (by decide)) (stack.slash_not_mem_bucket List.mem_cons_self)
      (stack.slash_not_mem_bucket hBucket) action key
  rw [hActions, editedDirectories_iff, eq_self, true_and] at hEdit
  rw [KiroInfraStack.ingestMay, IngestPipeline.rolePolicies, permitted_append_iff hRest]
  simp only [permitted, List.any_cons, List.any_nil]
  rw [hRead, hListRaw, hList, hInvoke]
  simp only [Bool.false_or, Bool.or_false]
  exact hEdit

theorem curated_resources (g : GrafanaWorkspace) : g.curatedStatement.resources =
    [usageDailyPrefix ++ ['/'], modelMessagesPrefix ++ ['/']].map
      fun directory => arnForObjects g.analyticsBucket (directory ++ ['*']) :=
  rfl

theorem results_resources (g : GrafanaWorkspace) : g.resultsStatement.resources =
    [resultsDirectory].map fun directory => arnForObjects g.analyticsBucket (directory ++ ['*']) :=
  rfl

/-- A request for an object of this stack is outside the managed policy. -/
theorem managed_not_allows (hManaged : ManagedApart stack.managed) {action key : Str}
    (hAction : action ∈ [getAction, putAction, deleteAction]) (hBucket : bucketName ∈ stack.buckets)
    {statement : Statement} (hm : statement ∈ stack.managed) :
    statement.allows (objectRequest action bucketName key) = false := by
  rcases hManaged statement hm with hActions | hResources
  · exact not_allows_of_actions (hActions action hAction)
  · apply not_allows_of_resources
    rw [hResources]
    rcases List.mem_pair.mp hBucket with rfl | rfl
    · rfl
    · rfl

/-- Which object actions the two statements on objects name. -/
theorem object_actions {action : Str} (h : action ∈ [getAction, putAction, deleteAction]) :
    (["s3:GetObject".toList].any (like · action) = true ↔ action = getAction) ∧
      (["s3:GetObject".toList, "s3:PutObject".toList, "s3:AbortMultipartUpload".toList,
        "s3:ListMultipartUploadParts".toList].any (like · action) = true ↔ action ≠ deleteAction) := by
  simp only [List.mem_cons, List.not_mem_nil, or_false] at h
  rcases h with rfl | rfl | rfl
  · decide
  · decide
  · decide

theorem curated_allows_iff (hBucket : bucketName ∈ stack.buckets) {action : Str}
    (hAction : action ∈ [getAction, putAction, deleteAction]) (key : Str) :
    stack.grafanaWorkspace.curatedStatement.allows (objectRequest action bucketName key) = true ↔
      action = getAction ∧ stack.analyticsBucket = bucketName ∧ isFactKey key = true := by
  have hAllows := allows_directories_iff (curated_resources stack.grafanaWorkspace) rfl
    stack.isLiteral_analyticsBucket (literal_of_all (by decide))
    (stack.slash_not_mem_bucket List.mem_cons_self) (stack.slash_not_mem_bucket hBucket) action key
  rw [hAllows]
  refine and_congr (object_actions hAction).1 (and_congr_right fun _ => ?_)
  simp only [List.mem_cons, List.not_mem_nil, or_false, exists_eq_or_imp, exists_eq_left, isFactKey,
    Bool.or_eq_true, List.isPrefixOf_iff_prefix]

theorem results_allows_iff (hBucket : bucketName ∈ stack.buckets) {action : Str}
    (hAction : action ∈ [getAction, putAction, deleteAction]) (key : Str) :
    stack.grafanaWorkspace.resultsStatement.allows (objectRequest action bucketName key) = true ↔
      action ≠ deleteAction ∧ stack.analyticsBucket = bucketName ∧ resultsDirectory <+: key := by
  have hAllows := allows_directories_iff (results_resources stack.grafanaWorkspace) rfl
    stack.isLiteral_analyticsBucket (literal_of_all (by decide))
    (stack.slash_not_mem_bucket List.mem_cons_self) (stack.slash_not_mem_bucket hBucket) action key
  rw [hAllows]
  refine and_congr (object_actions hAction).2 (and_congr_right fun _ => ?_)
  simp only [List.mem_singleton, exists_eq_left]

/-- The data source reads facts and query results, and writes query results only. -/
theorem dashboardsMay_iff (hManaged : ManagedApart stack.managed)
    (hBucket : bucketName ∈ stack.buckets) {action : Str}
    (hAction : action ∈ [getAction, putAction, deleteAction]) (key : Str) :
    stack.dashboardsMay action bucketName key = true ↔ stack.analyticsBucket = bucketName ∧
      ((action = getAction ∧ isFactKey key = true) ∨
        (action ≠ deleteAction ∧ resultsDirectory <+: key)) := by
  have hRest : ∀ statement ∈ stack.grafanaWorkspace.managed,
      statement.allows (objectRequest action bucketName key) = false :=
    fun statement hm => managed_not_allows hManaged hAction hBucket hm
  have hOther {statement : Statement}
      (h : [getAction, putAction, deleteAction].any
        (fun action => statement.actions.any (like · action)) = false) :
      statement.allows (objectRequest action bucketName key) = false :=
    not_allows_of_actions (Bool.eq_false_iff.mpr fun hLike =>
      Bool.eq_false_iff.mp h (List.any_eq_true.mpr ⟨action, hAction, hLike⟩))
  have hAthena := hOther (rfl : [getAction, putAction, deleteAction].any (fun action =>
    stack.grafanaWorkspace.athenaStatement.actions.any (like · action)) = false)
  have hGlue := hOther (rfl : [getAction, putAction, deleteAction].any (fun action =>
    stack.grafanaWorkspace.glueStatement.actions.any (like · action)) = false)
  have hOwn := hOther (rfl : [getAction, putAction, deleteAction].any (fun action =>
    stack.grafanaWorkspace.bucketStatement.actions.any (like · action)) = false)
  have hList (keyPrefix : Str) := hOther (rfl : [getAction, putAction, deleteAction].any (fun action =>
    (stack.grafanaWorkspace.listStatement keyPrefix).actions.any (like · action)) = false)
  rw [KiroInfraStack.dashboardsMay, GrafanaWorkspace.dataSourcePolicies, permitted_append_iff hRest]
  simp only [permitted, List.any_cons, List.any_nil, Bool.or_eq_true, hAthena, hGlue, hOwn, hList,
    curated_allows_iff hBucket hAction, results_allows_iff hBucket hAction, Bool.false_eq_true,
    false_or, or_false]
  tauto

theorem expires_iff (key : Str) : KiroInfraStack.expires key = true ↔ resultsDirectory <+: key := by
  simp only [KiroInfraStack.expires, KiroInfraStack.lifecycleRules, List.any_cons, List.any_nil,
    Bool.or_false, List.isPrefixOf_iff_prefix]
  rfl

/-- Query results are no objects of the function. -/
theorem isIngestKey_of_results {key : Str} (h : resultsDirectory <+: key) : isIngestKey key = false := by
  obtain ⟨rest, rfl⟩ := h
  rfl

/-- The work group stores its results where they may be written and where they expire. -/
theorem output_prefix_iff (key : Str) :
    stack.outputLocation <+: stack.queryLayer.address key ↔ resultsDirectory <+: key := by
  have hLocation : stack.outputLocation =
      (QueryLayer.scheme ++ stack.analyticsBucket) ++ '/' :: resultsDirectory := rfl
  have hAddress : stack.queryLayer.address key =
      (QueryLayer.scheme ++ stack.analyticsBucket) ++ '/' :: key := rfl
  rw [hLocation, hAddress, List.prefix_append_right_inj, List.cons_prefix_cons, and_iff_right rfl]

end Access

/-- Who may change which object. The function may put and delete its facts and its
sequencer state, in the analytics bucket and nowhere else; a query of a dashboard may put
exactly the objects that the work group stores and that expire, and may delete none; and
no key is of both kinds. -/
theorem KiroInfraStack.writers_apart (stack : KiroInfraStack) (hGranted : GrantsNoObjects stack.granted)
    (hManaged : ManagedApart stack.managed) {name : Str} (hBucket : name ∈ stack.buckets) (key : Str) :
    (stack.ingestMay putAction name key = true ↔
        stack.analyticsBucket = name ∧ isIngestKey key = true) ∧
      (stack.ingestMay deleteAction name key = true ↔
        stack.analyticsBucket = name ∧ isIngestKey key = true) ∧
      (stack.dashboardsMay putAction name key = true ↔
        stack.analyticsBucket = name ∧ stack.outputLocation <+: stack.queryLayer.address key) ∧
      stack.dashboardsMay deleteAction name key = false ∧
      (expires key = true ↔ stack.outputLocation <+: stack.queryLayer.address key) ∧
      ¬(isIngestKey key = true ∧ expires key = true) := by
  have hPut : stack.dashboardsMay putAction name key = true ↔ _ :=
    dashboardsMay_iff hManaged hBucket (by simp) key
  have hDelete : stack.dashboardsMay deleteAction name key = true ↔ _ :=
    dashboardsMay_iff hManaged hBucket (by simp) key
  rw [output_prefix_iff]
  refine ⟨ingestMay_iff hGranted hBucket (Or.inl rfl) key, ingestMay_iff hGranted hBucket (Or.inr rfl) key,
    hPut.trans ?_, Bool.eq_false_iff.mpr fun h => ?_, expires_iff key, fun ⟨hOwn, hExpires⟩ => ?_⟩
  · have hNot : putAction ≠ getAction ∧ putAction ≠ deleteAction := by decide
    simp only [hNot.1, false_and, false_or, ne_eq, hNot.2, not_false_eq_true, true_and]
  · have hNot : deleteAction ≠ getAction := by decide
    simpa [hNot] using hDelete.mp h
  · rw [isIngestKey_of_results ((expires_iff key).mp hExpires)] at hOwn
    cases hOwn

/-- What goes on in the analytics bucket besides ingestion: queries store their results,
and results expire. -/
inductive KiroInfraStack.Queries (stack : KiroInfraStack) (w : World) : World → Prop
  | store {key : Str} (body : ObjectBody)
      (h : stack.dashboardsMay putAction stack.analyticsBucket key = true) :
      Queries stack w { w with analytics := w.analytics.insert key body }
  | expire {key : Str} (h : expires key = true) :
      Queries stack w { w with analytics := w.analytics.erase key }

/-- Invocations of the function, and queries in between. -/
inductive KiroInfraStack.Amid (stack : KiroInfraStack) (f : KiroIngest.Function) :
    List (Json × FaultPlan) → World → List (Outcome Exn Unit) → World → Prop
  | nil (w : World) : Amid stack f [] w [] w
  | invoke {rest : List (Json × FaultPlan)} {outcomes : List (Outcome Exn Unit)} {after : World}
      (input : Json) (plan : FaultPlan) (w : World)
      (hRest : Amid stack f rest (f.handleAsync input plan 0 w).state outcomes after) :
      Amid stack f ((input, plan) :: rest) w ((f.handleAsync input plan 0 w).outcome :: outcomes) after
  | query {invocations : List (Json × FaultPlan)} {outcomes : List (Outcome Exn Unit)}
      {w w' after : World} (h : stack.Queries w w') (hRest : Amid stack f invocations w' outcomes after) :
      Amid stack f invocations w outcomes after

section Apart

variable {stack : KiroInfraStack} {w w' after : World} {f : KiroIngest.Function}

theorem KiroInfraStack.Queries.sameFootprint (hManaged : ManagedApart stack.managed)
    (h : stack.Queries w w') (platform : Platform) (scope : Scope) :
    SameFootprint platform scope w w' := by
  cases h with
  | @store key body h =>
      have hPut := (dashboardsMay_iff hManaged List.mem_cons_self (by simp) key).mp h
      have hResults : resultsDirectory <+: key := by
        rcases hPut.2 with ⟨hAction, _⟩ | ⟨_, hPrefix⟩
        · exact absurd hAction (by decide)
        · exact hPrefix
      exact sameFootprint_insert (isIngestKey_of_results hResults) body
  | expire h => exact sameFootprint_erase (isIngestKey_of_results ((expires_iff _).mp h))

theorem KiroInfraStack.Amid.interleaved (hManaged : ManagedApart stack.managed)
    {invocations : List (Json × FaultPlan)} {outcomes : List (Outcome Exn Unit)}
    (h : stack.Amid f invocations w outcomes after) (scope : Scope) :
    f.Interleaved scope invocations w outcomes after := by
  induction h with
  | nil w => exact .nil w
  | invoke input plan w _ ih => exact .invoke input plan w ih
  | query hQuery _ ih => exact .other (hQuery.sameFootprint hManaged _ scope) ih

end Apart

/-- Dashboards do not disturb ingestion: whatever queries store under the role and
whatever expires before, between and after invocations, each invocation ends as it does
without them, and the same facts and the same state result. -/
theorem KiroInfraStack.Amid.queries_harmless {stack : KiroInfraStack} {f : KiroIngest.Function}
    (hManaged : ManagedApart stack.managed) {invocations : List (Json × FaultPlan)}
    {outcomes : List (Outcome Exn Unit)} {w after : World}
    (h : stack.Amid f invocations w outcomes after) :
    outcomes = (f.handleAll invocations w).1 ∧ ∀ key, isIngestKey key = true →
      after.analytics.lookup key = (f.handleAll invocations w).2.analytics.lookup key := by
  let everything : Scope := ⟨fun _ => True, fun _ => True⟩
  have hCovers (input : Json) : f.Covers everything w input :=
    ⟨fun _ _ => trivial, fun _ _ => trivial, fun _ _ _ _ _ _ => trivial⟩
  obtain ⟨hOutcomes, hAfter⟩ := (h.interleaved hManaged everything).agrees
    (fun invocation _ => hCovers invocation.1) (SameFootprint.refl _ _ w)
  exact ⟨hOutcomes.symm, fun key hKey => Bucket.lookup_of_part hAfter.analytics hKey⟩

section Example

/-- The parts of the managed policy on queries and on their results. -/
def exampleManaged : List Statement :=
  [⟨["athena:GetQueryExecution".toList, "athena:StartQueryExecution".toList], [['*']], []⟩,
    ⟨["s3:GetBucketLocation".toList, "s3:GetObject".toList, "s3:ListBucket".toList,
      "s3:PutObject".toList], [bucketArn "grafana-athena-query-results-*".toList], []⟩]

def exampleStack : KiroInfraStack where
  account := ['1']
  region := ['r']
  granted := examplePipeline.granted
  managed := exampleManaged
  account_valid := rfl
  region_valid := rfl

theorem exampleManaged_apart : ManagedApart exampleStack.managed := by
  intro statement hm
  rcases List.mem_pair.mp hm with rfl | rfl
  · refine Or.inl fun action hAction => ?_
    have h : [getAction, putAction, deleteAction].all (fun action =>
        !(["athena:GetQueryExecution".toList, "athena:StartQueryExecution".toList].any
          (like · action))) = true := by
      decide
    simpa using List.all_eq_true.mp h action hAction
  · exact Or.inr rfl

theorem exampleGranted_noObjects : GrantsNoObjects exampleStack.granted := by
  have h : examplePipeline.granted.all (fun statement => [getAction, putAction, deleteAction].all
      fun action => !statement.actions.any (like · action)) = true := by
    decide
  intro statement hm action hAction
  simpa using List.all_eq_true.mp (List.all_eq_true.mp h statement hm) action hAction

/-- No query of a dashboard may delete a fact of the example. -/
theorem writers_apart_example :
    exampleStack.dashboardsMay deleteAction exampleStack.analyticsBucket exampleOutputKey = false :=
  (exampleStack.writers_apart exampleGranted_noObjects exampleManaged_apart List.mem_cons_self
    exampleOutputKey).2.2.2.1

theorem exampleResultKey_may :
    exampleStack.dashboardsMay putAction exampleStack.analyticsBucket exampleResultKey = true := by
  have hPrefix : resultsDirectory <+: exampleResultKey :=
    List.prefix_append resultsDirectory "1.csv".toList
  exact (dashboardsMay_iff exampleManaged_apart List.mem_cons_self (by simp) _).mpr
    ⟨rfl, Or.inr ⟨by decide, hPrefix⟩⟩

/-- A query stores its result before the event of the example, and it expires after it. -/
theorem queries_harmless_example :
    let queried := { exampleShelf with
      analytics := exampleShelf.analytics.insert exampleResultKey (.bytes []) }
    [(exampleNotified.handleAsync exampleNotification Plan.healthy 0 queried).outcome] =
      (exampleNotified.handleAll [(exampleNotification, Plan.healthy)] exampleShelf).1 := by
  have hExpires : KiroInfraStack.expires exampleResultKey = true := rfl
  have hRun : exampleStack.Amid exampleNotified [(exampleNotification, Plan.healthy)]
      exampleShelf _ _ :=
    .query (.store (.bytes []) exampleResultKey_may) (.invoke exampleNotification Plan.healthy _
      (.query (.expire hExpires) (.nil _)))
  exact (hRun.queries_harmless exampleManaged_apart).1

end Example

end KiroInfra
