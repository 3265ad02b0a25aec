import KiroUsage.Text.Calendar
import KiroUsage.Text.Hexadecimal

/-! The data that the ingest pipeline passes around: exceptions, source
identities and the records of the two facts. -/
namespace KiroIngest

open Text

/-- The exceptions the code throws or meets, with the data it looks at. -/
inductive Exn where
  | invalidData (message : Str)
  | argument (message : Str)
  | invalidOperation (message : Str)
  | json (message : Str)
  | keyNotFound
  | indexOutOfRange
  | amazonS3 (statusCode : Nat) (errorCode : Str)
  | aggregate (message : Str) (inner : List Exn)
  | other (type : Str) (message : Str)

/-- The filter of the `catch` clause that reads a missing state object. -/
def Exn.isMissingObject : Exn → Bool
  | amazonS3 statusCode errorCode => statusCode == 404 || errorCode == "NoSuchKey".toList
  | _ => false

/-- A double by its IEEE 754 bit pattern. -/
abbrev Double := BitVec 64

def Double.isFinite (d : Double) : Bool := (d >>> 52) &&& 0x7FF != 0x7FF

/-- `d < 0` for a finite double. Negative zero is not below zero. -/
def Double.isNegative (d : Double) : Bool := d.msb && d != 0x8000000000000000

structure UsageDailyRecord where
  userId : Str
  userEmail : Str
  chatConversations : Int
  creditsUsed : Double
  overageCap : Double
  overageCreditsUsed : Double
  overageEnabled : Bool
  subscriptionTier : Str
  totalMessages : Int
  newUser : Bool
  profileId : Str
deriving DecidableEq

structure ModelMessageRecord where
  userId : Str
  userEmail : Str
  model : Str
  messages : Int
deriving DecidableEq

/-- The types of the properties of a record. -/
inductive PropertyType where
  | string
  | long
  | double
  | bool
deriving DecidableEq

/-- The properties of a record under their JSON names, which are its Parquet columns. -/
def UsageDailyRecord.columns : List (Str × PropertyType) :=
  [("user_id".toList, .string), ("user_email".toList, .string),
    ("chat_conversations".toList, .long), ("credits_used".toList, .double),
    ("overage_cap".toList, .double), ("overage_credits_used".toList, .double),
    ("overage_enabled".toList, .bool), ("subscription_tier".toList, .string),
    ("total_messages".toList, .long), ("new_user".toList, .bool), ("profile_id".toList, .string)]

def ModelMessageRecord.columns : List (Str × PropertyType) :=
  [("user_id".toList, .string), ("user_email".toList, .string), ("model".toList, .string),
    ("messages".toList, .long)]

def isSequencer (sequencer : Str) : Bool := !isBlank sequencer && sequencer.all isHexDigit

/-- Immutable source identity. A live event names the object version and its
sequencer; a backfill names neither. -/
structure IngestSource where
  bucket : Str
  key : Str
  versionId : Option Str
  sequencer : Option Str
  bucket_valid : isBlank bucket = false
  key_valid : isBlank key = false
  sequencer_valid : ∀ s ∈ sequencer, isSequencer s = true
deriving DecidableEq

theorem valid_none : ∀ s ∈ (none : Option Str), isSequencer s = true := nofun

/-- The constructor of `IngestSource`, with its argument checks. -/
def IngestSource.create (bucket key : Str) (versionId sequencer : Option Str) :
    Except Exn IngestSource :=
  if hBucket : isBlank bucket = false then
    if hKey : isBlank key = false then
      if hSequencer : ∀ s ∈ sequencer, isSequencer s = true then
        .ok ⟨bucket, key, versionId, sequencer, hBucket, hKey, hSequencer⟩
      else .error (.argument "S3 event sequencer must be a non-empty hexadecimal string".toList)
    else .error (.argument "key".toList)
  else .error (.argument "bucket".toList)

/-- The two facts of one (date, client type) partition. -/
structure FactPartition where
  date : Str
  clientType : Str
  usageDaily : List UsageDailyRecord
  modelMessages : List ModelMessageRecord
deriving DecidableEq

/-- The columns of a partition that are in the path of its objects. -/
def FactPartition.path (partition : FactPartition) : Str × Str :=
  (partition.date, partition.clientType)

structure TransformResult where
  rowsRead : Nat
  rowsKept : Nat
  partitions : List FactPartition
deriving DecidableEq

/-- The parts of the runtime that the code calls and this development does not
compute: invariant upper-casing, the conversion of decimal text to doubles, URL
decoding and dates in the current culture. -/
structure Platform where
  toUpperInvariant : Char → Char
  doubleTryParse : Str → Option Double
  urlDecode : Str → Str
  dateToString : DateOnly → Str

end KiroIngest
