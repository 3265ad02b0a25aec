import KiroUsage.Ingest.Aws
import Mathlib.Data.Char
import Mathlib.Data.List.Lex
import Mathlib.Data.List.Sort

/-! The per-object pipeline: read a User Activity Report, filter it to the
Target List and reconcile the objects of the two facts. Live events and
backfill share it. -/
namespace KiroIngest

open Text Storage Execution

def usageDailyPrefix : Str := "usage_daily".toList

def modelMessagesPrefix : Str := "model_messages".toList

def statePrefix : Str := "ingest-state".toList

/-- The configured service. The factory accepts no blank configuration. -/
structure IngestService where
  platform : Platform
  rawBucket : Str
  rawPrefix : Str
  rawBucket_valid : isBlank rawBucket = false

/-- The locals of `ProcessCsvAsync` that its `catch` clause looks at. -/
structure Bookkeeping where
  attemptedOutputKeys : List Str := []
  existingOutputKeys : List Str := []
  publicationComplete : Bool := false

/-- A step inside the `try` block. -/
abbrev Publishing := Async AwsCall CallFailure (World × Bookkeeping) Exn

def stateKey (source : IngestSource) : Str :=
  statePrefix ++ '/' :: ReportTransform.sourceId source.bucket source.key ++ ".json".toList

def currentFileName (source : IngestSource) : Str :=
  ReportTransform.outputFileName source.bucket source.key

def legacyFileName (source : IngestSource) : Str :=
  ReportTransform.baseName source.key ++ ReportTransform.parquetSuffix

/-- `TrimStart('0')`, with a single zero for what would be empty. -/
def normalizeSequencer (sequencer : Str) : Str :=
  let trimmed := sequencer.dropWhile (· == '0')
  if trimmed.length = 0 then ['0'] else trimmed

def compareSequencers (left right : Str) : Except Exn Ordering :=
  if !left.all isHexDigit || !right.all isHexDigit then
    .error (.invalidData "S3 event sequencer must be hexadecimal".toList)
  else
    let normalizedLeft := normalizeSequencer left
    let normalizedRight := normalizeSequencer right
    let lengthComparison := compare normalizedLeft.length normalizedRight.length
    .ok (if lengthComparison ≠ .eq then lengthComparison
      else compareOrdinalIgnoreCase normalizedLeft normalizedRight)

def invalidStateDocument : Exn := .json "The JSON value could not be converted".toList

/-- What S3 answers to a request for a state object, as the deserializer sees it. -/
def World.readState (w : World) (key : Str) : Except Exn (Option Str) :=
  match w.analytics.lookup key with
  | none => .error missingObject
  | some (.sequencerState sequencer) => .ok sequencer
  | some _ => .error invalidStateDocument

def readSequencerAsync (source : IngestSource) : Ingest (Option Str) :=
  Async.catching (awsQuery (.getState (stateKey source)) fun w => w.readState (stateKey source))
    fun error => if error.isMissingObject then pure none else Async.throwing error

/-- The comparison of `IsStaleEventAsync`: not above what was saved. -/
def isStale (sequencer : Str) : Option Str → Except Exn Bool
  | none => .ok false
  | some savedSequencer => do return (← compareSequencers sequencer savedSequencer) != .gt

def isStaleEventAsync (source : IngestSource) : Ingest Bool :=
  match source.sequencer with
  | none => pure false
  | some sequencer => do
    let savedSequencer ← readSequencerAsync source
    Async.ofExcept (isStale sequencer savedSequencer)

def putObject (key : Str) (body : ObjectBody) : Ingest Unit :=
  awsUpdate (.putObject key) fun w => { w with analytics := w.analytics.insert key body }

def saveSequencerAsync (source : IngestSource) (sequencer : Str) : Ingest Unit :=
  putObject (stateKey source) (.sequencerState (some sequencer))

def readObjectTextAsync (source : IngestSource) : Ingest CsvText :=
  awsQuery (.getRaw source.bucket source.key source.versionId) fun w =>
    w.readRaw source.bucket source.key source.versionId

/-- Membership in the Target List, a set that compares ordinally and ignores
case. An empty or blank parameter is refused. -/
def parseTargetList (platform : Platform) (value : Option Str) : Except Exn (Str → Bool) :=
  if isNullOrWhiteSpace value then .error (.invalidData "Target List parameter is empty".toList)
  else
    let emails := (((value.getD []).splitOn ',').map trim).filter (· ≠ [])
    .ok fun email => emails.any fun target =>
      target.map platform.toUpperInvariant == email.map platform.toUpperInvariant

def getTargetListAsync (platform : Platform) : Ingest (Str → Bool) :=
  awsQuery .getParameter fun w => parseTargetList platform w.targetListParameter

/-- The date in the last five directories of a key of at least six segments. -/
def extractDateFromKey (key : Str) : Option DateOnly :=
  let parts := key.splitOn '/'
  if parts.length < 6 then none
  else
    let part (fromEnd : Nat) := parts.getD (parts.length - fromEnd) []
    DateOnly.tryParseExact (part 5 ++ '-' :: part 4 ++ '-' :: part 3)

def warnOnKeyDateMismatch (source : IngestSource) (result : TransformResult) : Ingest Unit :=
  match extractDateFromKey source.key with
  | none => pure ()
  | some keyDate =>
    let mismatched := (((result.partitions.map (·.date)).filter (· ≠ keyDate.format)).eraseDups
      ).insertionSort (· ≤ ·)
    if mismatched ≠ [] then logLine (.ingestDateMismatch source keyDate.format mismatched)
    else pure ()

/-- The objects of one partition: always one of the first fact, and one of the
second if the partition has rows for it. -/
def partitionOutputs (source : IngestSource) (partition : FactPartition) :
    List (Str × ObjectBody) :=
  let key (factPrefix : Str) :=
    ReportTransform.outputKey factPrefix partition.date partition.clientType source.bucket source.key
  (key usageDailyPrefix, .usageDaily partition.usageDaily) ::
    (if partition.modelMessages.length > 0 then
      [(key modelMessagesPrefix, .modelMessages partition.modelMessages)]
    else [])

def prepareOutputs (source : IngestSource) (result : TransformResult) : List (Str × ObjectBody) :=
  result.partitions.flatMap (partitionOutputs source)

/-- A truncated page must carry a token. -/
def requireContinuationToken (response : ListObjectsV2Response) (listingDescription : Str) :
    Except Exn (Option Str) :=
  if response.isTruncated ≠ some true then .ok none
  else if isNullOrWhiteSpace response.nextContinuationToken then
    .error (.invalidOperation ("S3 returned a truncated ".toList ++ listingDescription ++
      " without a continuation token".toList))
  else .ok response.nextContinuationToken

def isOutputOf (source : IngestSource) (key : Str) : Bool :=
  getFileName key == currentFileName source || getFileName key == legacyFileName source

/-- The paging loop over one prefix. S3 answers the token of a page with the
page after it. -/
def listMatches (source : IngestSource) (keyPrefix : Str) :
    Listing Str Str → Option Str → List Str → Ingest (List Str)
  | .last page, continuationToken, found => do
    let response ← awsQuery (.listAnalytics keyPrefix continuationToken) fun _ =>
      .ok (ListObjectsV2Response.ofListing (.last page))
    let found := found ++ (response.s3Objects.getD []).filter (isOutputOf source)
    let _ ← Async.ofExcept (requireContinuationToken response "analytics listing".toList)
    return found
  | .more page token rest, continuationToken, found => do
    let response ← awsQuery (.listAnalytics keyPrefix continuationToken) fun _ =>
      .ok (ListObjectsV2Response.ofListing (.more page token rest))
    let found := found ++ (response.s3Objects.getD []).filter (isOutputOf source)
    let next ← Async.ofExcept (requireContinuationToken response "analytics listing".toList)
    listMatches source keyPrefix rest next found

/-- The keys of all objects of either fact that carry one of the two names of
the source's outputs. -/
def findExistingOutputKeysAsync (source : IngestSource) : Ingest (List Str) := do
  let usageListing ← Async.inspect fun w : World => w.listAnalytics (usageDailyPrefix ++ ['/'])
  let found ← listMatches source (usageDailyPrefix ++ ['/']) usageListing none []
  let modelListing ← Async.inspect fun w : World => w.listAnalytics (modelMessagesPrefix ++ ['/'])
  let found ← listMatches source (modelMessagesPrefix ++ ['/']) modelListing none found
  return found.eraseDups

def writeParquetAsync (output : Str × ObjectBody) : Ingest Unit := putObject output.1 output.2

def deleteOutputAsync (key : Str) : Ingest Unit :=
  awsUpdate (.deleteObject key) fun w => { w with analytics := w.analytics.erase key }

def tryDeleteOutputsAsync (keys : List Str) (source : IngestSource) : Ingest Unit :=
  Async.forEach keys fun key => do
    match ← Async.attempt (deleteOutputAsync key) with
    | some cleanupError => logLine (.ingestCleanupError source key cleanupError)
    | none => pure ()

namespace IngestService

variable (s : IngestService)

/-- Everything that precedes the first write: the outputs to publish and the
transform result they come from. -/
def prepareAsync (source : IngestSource) : Ingest (TransformResult × List (Str × ObjectBody)) := do
  let csv ← readObjectTextAsync source
  let targetList ← getTargetListAsync s.platform
  let result ← Async.ofExcept (ReportTransform.transform s.platform csv targetList)
  warnOnKeyDateMismatch source result
  return (result, prepareOutputs source result)

end IngestService

/-- The two loops of the publication. A key counts as attempted before its
request, which may reach S3 even if no response comes back. -/
def publishOutputs (outputs : List (Str × ObjectBody)) (existingOutputKeys : List Str) :
    Publishing Unit := do
  Async.forEach outputs fun output => do
    Async.assign fun vars : Bookkeeping =>
      { vars with attemptedOutputKeys := vars.attemptedOutputKeys ++ [output.1] }
    Async.lift (writeParquetAsync output)
  Async.forEach (existingOutputKeys.filter fun key => key ∉ outputs.map Prod.fst) fun staleKey =>
    Async.lift (deleteOutputAsync staleKey)

/-- A live event saves its sequencer, a backfill has none. -/
def saveLiveSequencer (source : IngestSource) : Ingest Unit :=
  match source.sequencer with
  | some sequencer => saveSequencerAsync source sequencer
  | none => pure ()

/-- The end of the `try` block, after the outputs are complete. -/
def finishAsync (source : IngestSource) (result : TransformResult) : Ingest Unit := do
  record (.published source)
  saveLiveSequencer source
  logLine (.ingestComplete source result.rowsRead result.rowsKept
    (result.partitions.map (·.usageDaily.length)).sum
    (result.partitions.map (·.modelMessages.length)).sum result.partitions.length)

/-- Once publication has begun and before it is complete, a failure removes
both the prior and the attempted outputs. -/
def removeUnlessComplete (source : IngestSource) (vars : Bookkeeping) : Ingest Unit :=
  if vars.attemptedOutputKeys.length > 0 ∧ vars.publicationComplete = false then
    tryDeleteOutputsAsync (vars.existingOutputKeys ++ vars.attemptedOutputKeys).eraseDups source
  else pure ()

/-- The `catch` clause. -/
def failClosed (source : IngestSource) (vars : Bookkeeping) (error : Exn) : Ingest Unit := do
  removeUnlessComplete source vars
  logLine (.ingestError source error)
  Async.throwing error

namespace IngestService

variable (s : IngestService)

/-- The `try` block of `ProcessCsvAsync` from the first write on. -/
def publishAsync (source : IngestSource) (result : TransformResult)
    (outputs : List (Str × ObjectBody)) (existingOutputKeys : List Str) : Publishing Unit := do
  publishOutputs outputs existingOutputKeys
  Async.assign fun vars : Bookkeeping => { vars with publicationComplete := true }
  Async.lift (finishAsync source result)

/-- The `try` block of `ProcessCsvAsync` for an event that is not stale. -/
def reconcileAsync (source : IngestSource) : Publishing Unit := do
  let (result, outputs) ← Async.lift (s.prepareAsync source)
  let existingOutputKeys ← Async.lift (findExistingOutputKeysAsync source)
  Async.assign fun vars : Bookkeeping => { vars with existingOutputKeys }
  publishAsync source result outputs existingOutputKeys

def tryProcessCsv (source : IngestSource) : Publishing Unit := do
  if ← Async.lift (isStaleEventAsync source) then
    Async.lift (logLine (.ingestSkippedStale source))
  else s.reconcileAsync source

def processCsvAsync (source : IngestSource) : Ingest Unit := do
  record (.processing source)
  Async.catchingWith {} (s.tryProcessCsv source) (failClosed source)

end IngestService

end KiroIngest
