import KiroUsage.Ingest.BackfillRequest
import KiroUsage.Ingest.ReportTransform
import KiroUsage.Semantics.Triple
import KiroUsage.Storage.Publication
import KiroUsage.Storage.Listing

/-! The services around the ingest function: the versioned raw bucket, the
analytics bucket, the Target List parameter and the function's own
asynchronous invocations. One call is one request to a service. -/
namespace KiroIngest

open Text Storage Execution

/-- What an object of the analytics bucket holds. A Parquet file is the list
of its rows; a state document is what its `Sequencer` deserialises to. -/
inductive ObjectBody where
  | usageDaily (rows : List UsageDailyRecord)
  | modelMessages (rows : List ModelMessageRecord)
  | sequencerState (sequencer : Option Str)
  | bytes (content : List UInt8)
deriving DecidableEq

/-- The emails in the rows of a fact object. -/
def ObjectBody.emails : ObjectBody → List Str
  | usageDaily rows => rows.map (·.userEmail)
  | modelMessages rows => rows.map (·.userEmail)
  | _ => []

/-- One version of one object of the raw buckets. -/
structure RawVersion where
  bucket : Str
  key : Str
  versionId : Str
  body : CsvText

/-- How S3 splits a listing of the analytics bucket into pages. All that is
known is that every key is on some page and that tokens are not blank. -/
structure Paging where
  split : Str → List Str → Listing Str Str
  complete : ∀ keyPrefix keys key, key ∈ (split keyPrefix keys).objects ↔ key ∈ keys
  linked : ∀ keyPrefix keys, ∀ token ∈ (split keyPrefix keys).tokens, isBlank token = false

/-- Everything on one page. -/
def Paging.single : Paging where
  split := fun _ keys => .last keys
  complete := fun _ _ _ => Iff.rfl
  linked := fun _ _ _ h => by cases h

/-- The structured log lines. -/
inductive LogEvent where
  | ingestSkippedStale (source : IngestSource)
  | ingestComplete (source : IngestSource)
      (rowsRead rowsKept usageDailyRows modelMessagesRows partitions : Nat)
  | ingestDateMismatch (source : IngestSource) (keyDate : Str) (reportDates : List Str)
  | ingestCleanupError (source : IngestSource) (outputKey : Str) (error : Exn)
  | ingestError (source : IngestSource) (error : Exn)
  | backfillPageStarted (bucket rawPrefix : Str) (fromDate toDate : Option DateOnly)
      (continuationToken : Option Str)
  | backfillInvalidKey (bucket key : Str) (error : Exn)
  | backfillPageComplete (objectsProcessed objectsFailed : Nat) (continuationScheduled : Bool)
  | invocationError (error : Exn)

/-- The history variable: the calls of `ProcessCsvAsync`, and the points where
one has completed the publication of its outputs. No program reads it. -/
inductive HistoryEvent where
  | processing (source : IngestSource)
  | published (source : IngestSource)
deriving DecidableEq

/-- The SDK's response to a listing request. Absent values are null. -/
structure ListObjectsV2Response where
  s3Objects : Option (List Str)
  isTruncated : Option Bool
  nextContinuationToken : Option Str
deriving DecidableEq

/-- The state of the services, the log of the function and the history. The
raw versions are kept from the oldest to the newest. -/
structure World where
  raw : List RawVersion
  rawListing : Option Str → ListObjectsV2Response
  analytics : Bucket Str ObjectBody
  paging : Paging
  targetListParameter : Option Str
  invocations : List Json
  log : List LogEvent
  history : List HistoryEvent

/-- The requests of the function to AWS. -/
inductive AwsCall where
  | getState (key : Str)
  | getRaw (bucket key : Str) (versionId : Option Str)
  | getParameter
  | listAnalytics (keyPrefix : Str) (continuationToken : Option Str)
  | putObject (key : Str)
  | deleteObject (key : Str)
  | listRaw (continuationToken : Option Str)
  | invokeLambda (payload : BackfillRequest)
deriving DecidableEq

/-- The requests that precede the first write of an ingest run. -/
def AwsCall.isRead : AwsCall → Bool
  | getState _ | getRaw .. | getParameter | listAnalytics .. => true
  | _ => false

/-- The error of a call that fails. A missing object is not a failure but an
answer of S3, so no failure looks like one. -/
structure CallFailure where
  error : Exn
  not_missing : error.isMissingObject = false

theorem slowDown_not_missing :
    (Exn.amazonS3 503 "SlowDown".toList).isMissingObject = false := rfl

/-- A program of the ingest function. -/
abbrev Ingest := Async AwsCall CallFailure World Exn

abbrev FaultPlan := Plan AwsCall CallFailure

def aws {α : Type} (request : AwsCall) (action : World → Except Exn α × World) : Ingest α :=
  Async.call CallFailure.error request action

/-- A request that reads. -/
def awsQuery {α : Type} (request : AwsCall) (answer : World → Except Exn α) : Ingest α :=
  aws request fun w => (answer w, w)

/-- A request that writes. -/
def awsUpdate (request : AwsCall) (update : World → World) : Ingest Unit :=
  aws request fun w => (.ok (), update w)

def logLine (event : LogEvent) : Ingest Unit :=
  Async.modify fun w => { w with log := w.log ++ [event] }

def record (event : HistoryEvent) : Ingest Unit :=
  Async.modify fun w => { w with history := w.history ++ [event] }

/-- The answer of S3 to a request for an object that does not exist. -/
def missingObject : Exn := .amazonS3 404 "NoSuchKey".toList

/-- The version of a raw object that a request reads: the one it names, or the
newest one. -/
def World.readRaw (w : World) (bucket key : Str) (versionId : Option Str) : Except Exn CsvText :=
  match (w.raw.filter fun v => v.bucket = bucket ∧ v.key = key ∧
    (versionId = none ∨ versionId = some v.versionId)).getLast? with
  | some version => .ok version.body
  | none => .error missingObject

/-- The pages of a listing of the analytics bucket under a prefix. -/
def World.listAnalytics (w : World) (keyPrefix : Str) : Listing Str Str :=
  w.paging.split keyPrefix (w.analytics.keys.filter fun key => keyPrefix.isPrefixOf key)

/-- The response with the first page of a listing. -/
def ListObjectsV2Response.ofListing (listing : Listing Str Str) : ListObjectsV2Response where
  s3Objects := if listing.page = [] then none else some listing.page
  isTruncated := some listing.next.isSome
  nextContinuationToken := listing.next

@[simp] theorem ListObjectsV2Response.ofListing_objects (listing : Listing Str Str) :
    (ofListing listing).s3Objects.getD [] = listing.page := by
  unfold ofListing
  split_ifs with h
  · exact h.symm
  · rfl

end KiroIngest
