import KiroUsage.Ingest.IngestService

/-! Backfill and the Lambda handler. A backfill walks the raw listing one page
an invocation and continues itself by an asynchronous self-invocation. -/
namespace KiroIngest

open Text Storage Execution

/-- The scheduler's payload for the page after a continuation token. -/
def continuationRequest (fromDate toDate : Option DateOnly) (continuationToken : Str) :
    BackfillRequest :=
  ⟨some BackfillRequest.modeValue, fromDate, toDate, some continuationToken⟩

/-- A nullable date in an interpolated string. -/
def interpolated (platform : Platform) (date : Option DateOnly) : Str :=
  (date.map platform.dateToString).getD []

/-- `LambdaBackfillContinuationScheduler.ScheduleAsync`. -/
def scheduleAsync (platform : Platform) (fromDate toDate : Option DateOnly)
    (continuationToken : Str) : Ingest Unit :=
  let payload := continuationRequest fromDate toDate continuationToken
  Async.catching
    (awsUpdate (.invokeLambda payload) fun w =>
      { w with invocations := w.invocations ++ [payload.serialize] })
    fun _ => Async.throwing (.invalidOperation
      ("Failed to schedule backfill continuation (from=".toList ++ interpolated platform fromDate ++
        ", to=".toList ++ interpolated platform toDate ++ ")".toList))

/-- `keyDate < from || keyDate > to`, where an absent bound excludes nothing. -/
def outsideBounds (fromDate toDate : Option DateOnly) (keyDate : DateOnly) : Bool :=
  fromDate.any (fun date => keyDate < date) || toDate.any (fun date => date < keyDate)

def invalidKeyError (key : Str) : Exn :=
  .invalidData ("Backfill key has no valid report date: ".toList ++ key)

namespace IngestService

variable (s : IngestService)

/-- One turn of the page loop. It counts the object if it is within the bounds
and hands over the error that its processing, or its key, gives. -/
def backfillObject (fromDate toDate : Option DateOnly) (key : Str) : Ingest (Nat × List Exn) :=
  if endsWithIgnoreCase key ".csv".toList then
    match extractDateFromKey key with
    | none => do
      logLine (.backfillInvalidKey s.rawBucket key (invalidKeyError key))
      return (0, [invalidKeyError key])
    | some keyDate =>
      if outsideBounds fromDate toDate keyDate then return (0, [])
      else do
        let failure ← Async.attempt do
          let source ← Async.ofExcept (IngestSource.create s.rawBucket key none none)
          s.processCsvAsync source
        return (1, failure.toList)
  else return (0, [])

/-- The page loop, with the number of objects processed and the failures. -/
def backfillObjects (fromDate toDate : Option DateOnly) :
    List Str → Nat → List Exn → Ingest (Nat × List Exn)
  | [], processed, failures => return (processed, failures)
  | key :: rest, processed, failures => do
    let (count, errors) ← s.backfillObject fromDate toDate key
    backfillObjects fromDate toDate rest (processed + count) (failures ++ errors)

/-- Schedule first, so that a failing object of this page cannot hold up later
pages. -/
def scheduleNext (fromDate toDate : Option DateOnly) (nextContinuationToken : Option Str) :
    Ingest Unit :=
  match nextContinuationToken with
  | some token => scheduleAsync s.platform fromDate toDate token
  | none => pure ()

def processBackfillAsync (fromDate toDate : Option DateOnly) (continuationToken : Option Str) :
    Ingest Unit := do
  if BackfillRequest.reversed fromDate toDate then Async.throwing BackfillRequest.reversedError
  else
    logLine (.backfillPageStarted s.rawBucket s.rawPrefix fromDate toDate continuationToken)
    let response ← awsQuery (.listRaw continuationToken) fun w => .ok (w.rawListing continuationToken)
    let nextContinuationToken ← Async.ofExcept
      (requireContinuationToken response "backfill page".toList)
    s.scheduleNext fromDate toDate nextContinuationToken
    let (processed, failures) ←
      s.backfillObjects fromDate toDate (response.s3Objects.getD []) 0 []
    logLine (.backfillPageComplete processed failures.length nextContinuationToken.isSome)
    if failures.length > 0 then
      Async.throwing (.aggregate ("Backfill failed for ".toList ++
        (toString failures.length).toList ++ " object(s)".toList) failures)
    else pure ()

end IngestService

/-- The object of an S3 event record. Its key is URL encoded. -/
structure S3Object where
  key : Option Str
  versionId : Option Str
  sequencer : Option Str

/-- An S3 event record, as far as the handler reads it. -/
structure S3Record where
  bucketName : Option Str
  object : Option S3Object

def missingRecordParts : Exn :=
  .invalidOperation "S3 event record is missing bucket or object key".toList

/-- The source that a record names. -/
def S3Record.source (platform : Platform) (record : S3Record) : Except Exn IngestSource :=
  match record.bucketName, record.object with
  | some bucket, some object =>
    match object.key with
    | some key =>
      if isBlank bucket || isBlank key then .error missingRecordParts
      else IngestSource.create bucket (platform.urlDecode key) object.versionId object.sequencer
    | none => .error missingRecordParts
  | _, _ => .error missingRecordParts

/-- The Lambda function: its ingest service and the library's reading of an S3
event, whose record list may be null. -/
structure Function where
  ingest : IngestService
  deserializeS3Event : Json → Except Exn (Option (Option (List S3Record)))

namespace Function

variable (f : Function)

/-- The record loop of `HandleS3EventAsync`, with the failures so far. -/
def handleRecords : List S3Record → List Exn → Ingest (List Exn)
  | [], failures => return failures
  | record :: rest, failures => do
    let failure ← Async.attempt do
      let source ← Async.ofExcept (record.source f.ingest.platform)
      f.ingest.processCsvAsync source
    handleRecords rest (failures ++ failure.toList)

def handleS3EventAsync (records : Option (List S3Record)) : Ingest Unit := do
  let failures ← f.handleRecords (records.getD []) []
  if failures.length > 0 then
    Async.throwing (.aggregate "One or more S3 event records failed".toList failures)
  else pure ()

def handleModeRequestAsync (root mode : Json) : Ingest Unit :=
  match mode with
  | .string _ => do
    match ← Async.ofExcept (BackfillRequest.deserialize root) with
    | some backfill =>
      Async.ofExcept backfill.validate
      f.ingest.processBackfillAsync backfill.fromDate backfill.toDate backfill.continuationToken
    | none =>
      Async.throwing (.invalidOperation "Failed to parse backfill payload from JSON".toList)
  | _ => Async.throwing BackfillRequest.modeError

def unsupportedPayload : Exn :=
  .invalidOperation ("Unsupported Lambda payload: expected a non-empty S3 Records array or ".toList ++
    "mode=backfill".toList)

/-- The dispatch of `HandleAsync` on the shape of the payload. -/
def dispatch : Json → Ingest Unit
  | .object members =>
    match tryGetProperty members "mode".toList with
    | some mode => f.handleModeRequestAsync (.object members) mode
    | none =>
      match tryGetProperty members "Records".toList with
      | some (.array (_ :: _)) => do
        match ← Async.ofExcept (f.deserializeS3Event (.object members)) with
        | some records => f.handleS3EventAsync records
        | none =>
          Async.throwing (.invalidOperation "Failed to parse S3 event from JSON".toList)
      | _ => Async.throwing unsupportedPayload
  | _ => Async.throwing (.invalidOperation "Lambda payload must be a JSON object".toList)

def handleAsync (input : Json) : Ingest Unit :=
  Async.catching (f.dispatch input) fun error => do
    logLine (.invocationError error)
    Async.throwing error

end Function

end KiroIngest
