import KiroUsage.Infra.QueryLayer
import KiroUsage.Infra.IngestPipeline

/-! The role that Grafana's data source assumes, and what object patterns of one
bucket permit. -/
namespace KiroInfra

open Text Access

/-- The directory of Athena's query results. -/
def resultsDirectory : Str := "athena-results/".toList

def getAction : Str := "s3:GetObject".toList
def putAction : Str := "s3:PutObject".toList
def deleteAction : Str := "s3:DeleteObject".toList

/-- A request for one object. -/
def objectRequest (action bucketName key : Str) : Request where
  action := action
  resource := arnForObjects bucketName key
  context := []

/-- The Grafana workspace of one account. `managed` are the statements of the AWS
managed policy `AmazonGrafanaAthenaAccess`. -/
structure GrafanaWorkspace where
  account : Str
  region : Str
  analyticsBucket : Str
  managed : List Statement

namespace GrafanaWorkspace

variable (g : GrafanaWorkspace)

def workGroupName : Str := "kiro-usage".toList
def databaseName : Str := "kiro_usage".toList

def regionalArn (service resource : Str) : Str :=
  "arn:aws:".toList ++ service ++ ':' :: g.region ++ ':' :: g.account ++ ':' :: resource

/-- All Athena actions are pinned to the work group. -/
def athenaStatement : Statement where
  actions := ["athena:StartQueryExecution".toList, "athena:StopQueryExecution".toList,
    "athena:GetQueryExecution".toList, "athena:GetQueryResults".toList, "athena:GetWorkGroup".toList]
  resources := [g.regionalArn "athena".toList ("workgroup/".toList ++ workGroupName)]

/-- Metadata of the database and its two tables. -/
def glueStatement : Statement where
  actions := ["glue:GetDatabase".toList, "glue:GetTable".toList, "glue:GetTables".toList,
    "glue:GetPartitions".toList]
  resources :=
    [g.regionalArn "glue".toList "catalog".toList,
      g.regionalArn "glue".toList ("database/".toList ++ databaseName),
      g.regionalArn "glue".toList ("table/".toList ++ databaseName ++ "/usage_daily".toList),
      g.regionalArn "glue".toList ("table/".toList ++ databaseName ++ "/model_messages".toList)]

/-- The curated facts. -/
def curatedStatement : Statement where
  actions := ["s3:GetObject".toList]
  resources :=
    [arnForObjects g.analyticsBucket "usage_daily/*".toList,
      arnForObjects g.analyticsBucket "model_messages/*".toList]

/-- Athena validates the bucket of its results. -/
def bucketStatement : Statement where
  actions := ["s3:GetBucketLocation".toList, "s3:ListBucketMultipartUploads".toList]
  resources := [bucketArn g.analyticsBucket]

/-- One statement for each prefix that may be listed. -/
def listStatement (keyPrefix : Str) : Statement where
  actions := ["s3:ListBucket".toList]
  resources := [bucketArn g.analyticsBucket]
  stringLike := [("s3:prefix".toList, [keyPrefix])]

def resultsStatement : Statement where
  actions := ["s3:GetObject".toList, "s3:PutObject".toList, "s3:AbortMultipartUpload".toList,
    "s3:ListMultipartUploadParts".toList]
  resources := [arnForObjects g.analyticsBucket "athena-results/*".toList]

/-- The policies of the data source role. -/
def dataSourcePolicies : List Statement :=
  [g.athenaStatement, g.glueStatement, g.curatedStatement, g.bucketStatement,
    g.listStatement "usage_daily/*".toList, g.listStatement "model_messages/*".toList,
    g.listStatement "athena-results/*".toList, g.resultsStatement] ++ g.managed

end GrafanaWorkspace

section Objects

variable {bucketName other : Str}

/-- A pattern for the objects in a directory matches just these. -/
theorem like_arnForObjects_iff {directory : Str} (hBucket : IsLiteral bucketName)
    (hDirectory : IsLiteral directory) (hSlash : '/' ∉ bucketName) (hOther : '/' ∉ other) (key : Str) :
    like (arnForObjects bucketName (directory ++ ['*'])) (arnForObjects other key) = true ↔
      bucketName = other ∧ directory <+: key := by
  have hArn : IsLiteral (arnForObjects bucketName directory) := by
    apply isLiteral_append (isLiteral_append (isLiteral_of_all (by decide)) hBucket)
    exact List.forall_mem_cons.mpr ⟨by decide, hDirectory⟩
  have hPattern : arnForObjects bucketName (directory ++ ['*']) =
      arnForObjects bucketName directory ++ ['*'] := by
    simp only [arnForObjects, List.append_assoc, List.cons_append]
  rw [hPattern, like_literal_star_iff hArn]
  simp only [arnForObjects, bucketArn, List.append_assoc, List.prefix_append_right_inj]
  constructor
  · intro h
    have hSame : bucketName = other := by
      apply QueryLayer.segment_eq hSlash hOther
      apply List.IsPrefix.trans _ h
      exact (List.prefix_append_right_inj bucketName).mpr (List.prefix_append ['/'] directory)
    subst hSame
    rw [List.prefix_append_right_inj, List.cons_prefix_cons] at h
    exact ⟨rfl, h.2⟩
  · rintro ⟨rfl, hPrefix⟩
    rw [List.prefix_append_right_inj, List.cons_prefix_cons]
    exact ⟨rfl, hPrefix⟩

/-- What a statement for some directories of a bucket allows. -/
theorem allows_directories_iff {statement : Statement} {directories : List Str}
    (hResources : statement.resources =
      directories.map fun directory => arnForObjects bucketName (directory ++ ['*']))
    (hConditions : statement.stringLike = []) (hBucket : IsLiteral bucketName)
    (hDirectories : ∀ directory ∈ directories, IsLiteral directory) (hSlash : '/' ∉ bucketName)
    (hOther : '/' ∉ other) (action key : Str) :
    statement.allows (objectRequest action other key) = true ↔
      statement.actions.any (like · action) = true ∧ bucketName = other ∧
        ∃ directory ∈ directories, directory <+: key := by
  have hMatch : (statement.resources.any (like · (arnForObjects other key)) = true) ↔
      bucketName = other ∧ ∃ directory ∈ directories, directory <+: key := by
    rw [hResources, List.any_map, List.any_eq_true]
    constructor
    · rintro ⟨directory, hMem, hLike⟩
      obtain ⟨hSame, hPrefix⟩ :=
        (like_arnForObjects_iff hBucket (hDirectories _ hMem) hSlash hOther key).mp hLike
      exact ⟨hSame, directory, hMem, hPrefix⟩
    · rintro ⟨hSame, directory, hMem, hPrefix⟩
      exact ⟨directory, hMem,
        (like_arnForObjects_iff hBucket (hDirectories _ hMem) hSlash hOther key).mpr ⟨hSame, hPrefix⟩⟩
  simp only [Statement.allows, objectRequest, hConditions, List.all_nil, Bool.and_true,
    Bool.and_eq_true, hMatch]

/-- The part of a role that decides about a request. -/
theorem permitted_append_iff {statements more : List Statement} {request : Request}
    (hMore : ∀ statement ∈ more, statement.allows request = false) :
    permitted (statements ++ more) request = true ↔ permitted statements request = true := by
  have hNone : more.any (·.allows request) = false := not_permitted hMore
  rw [permitted, List.any_append, hNone, Bool.or_false]
  rfl

end Objects

end KiroInfra
