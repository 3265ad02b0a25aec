import KiroUsage.Ingest.Facts
import KiroUsage.Text.Sha256

/-! The pure transform: User Activity Report and Target List to the two facts,
grouped by (date, client type) partition, and the names of the output objects. -/
namespace KiroIngest

open Text

/-- A report text as CsvHelper's parser reads it: one entry for each `Read()`
that returns true (`none` for a null record), and the parser's error message
if one ends the reading. -/
structure CsvText where
  records : List (Option (List Str))
  failure : Option Str := none
deriving DecidableEq

namespace Csv

def rowWidthMessage (actual expected : Nat) : Str :=
  "User Activity Report row has ".toList ++ (toString actual).toList ++
    " columns; expected ".toList ++ (toString expected).toList

/-- The reading loop. The first record is the header and every later one must
have its width. -/
def readRecords (failure : Option Str) : List (Option (List Str)) → Option (List Str) →
    List (List Str) → Except Exn (Option (List Str) × List (List Str))
  | [], header, rows =>
    match failure with
    | none => .ok (header, rows)
    | some message => .error (.invalidData ("Malformed User Activity Report CSV: ".toList ++ message))
  | none :: rest, header, rows => readRecords failure rest header rows
  | some record :: rest, none, rows => readRecords failure rest (some record) rows
  | some record :: rest, some header, rows =>
    if record.length ≠ header.length then
      .error (.invalidData (rowWidthMessage record.length header.length))
    else readRecords failure rest (some header) (rows ++ [record])

def parse (text : CsvText) : Except Exn (List Str × List (List Str)) := do
  let (header, rows) ← readRecords text.failure text.records none []
  return (header.getD [], rows)

end Csv

namespace ReportTransform

def colDate : Str := "Date".toList
def colUserId : Str := "UserId".toList
def colClientType : Str := "Client_Type".toList
def colChatConversations : Str := "Chat_Conversations".toList
def colCreditsUsed : Str := "Credits_Used".toList
def colOverageCap : Str := "Overage_Cap".toList
def colOverageCreditsUsed : Str := "Overage_Credits_Used".toList
def colOverageEnabled : Str := "Overage_Enabled".toList
def colProfileId : Str := "ProfileId".toList
def colSubscriptionTier : Str := "Subscription_Tier".toList
def colTotalMessages : Str := "Total_Messages".toList
def colNewUser : Str := "New_User".toList
def colUserEmail : Str := "User_Email".toList

def requiredColumns : List Str :=
  [colDate, colUserId, colClientType, colChatConversations, colCreditsUsed, colOverageCap,
    colOverageCreditsUsed, colOverageEnabled, colProfileId, colSubscriptionTier, colTotalMessages,
    colNewUser, colUserEmail]

def supportedClientTypes : List Str :=
  ["KIRO_CLI".toList, "KIRO_IDE".toList, "PLUGIN".toList]

def isModelCharacter (c : Char) : Bool :=
  ('a' ≤ c && c ≤ 'z') || ('0' ≤ c && c ≤ '9') || c == '.' || c == '_'

def messagesSuffix : Str := "_messages".toList

/-- The model of `column = model ++ "_messages"`, if the model is not empty
and has only the characters `[a-z0-9._]`. -/
def modelBeforeSuffix (column : Str) : Option Str :=
  let model := column.take (column.length - messagesSuffix.length)
  if model ≠ [] ∧ column = model ++ messagesSuffix ∧ model.all isModelCharacter then some model
  else none

/-- `ModelColumnPattern`, the regular expression `^(?<model>[a-z0-9._]+)_messages$`.
The final anchor also matches in front of a last line feed. -/
def modelColumnPattern (column : Str) : Option Str :=
  match column.getLast? with
  | some '\n' => modelBeforeSuffix column.dropLast
  | _ => modelBeforeSuffix column

abbrev ColumnIndex := List (Str × Nat)

/-- The header loop: it fills the name-to-position map and the list of model
columns. -/
def readHeader : Nat → List Str → ColumnIndex → List (Nat × Str) →
    Except Exn (ColumnIndex × List (Nat × Str))
  | _, [], index, modelColumns => .ok (index, modelColumns)
  | i, column :: rest, index, modelColumns =>
    if isBlank column || (index.lookup column).isSome then
      .error (.invalidData
        ("User Activity Report contains an empty or duplicate column: '".toList ++ column ++
          "'".toList))
    else
      readHeader (i + 1) rest (index ++ [(column, i)])
        (match modelColumnPattern column with
        | some model => modelColumns ++ [(i, model)]
        | none => modelColumns)

def requireColumns (index : ColumnIndex) : List Str → Except Exn Unit
  | [] => .ok ()
  | requiredColumn :: rest =>
    if (index.lookup requiredColumn).isSome then requireColumns index rest
    else .error (.invalidData
      ("User Activity Report is missing required column '".toList ++ requiredColumn ++ "'".toList))

def cell (row : List Str) (i : Nat) : Except Exn Str :=
  match row[i]? with
  | some value => .ok value
  | none => .error .indexOutOfRange

def field (row : List Str) (index : ColumnIndex) (column : Str) : Except Exn Str :=
  match index.lookup column with
  | some i => cell row i
  | none => .error .keyNotFound

def columnMessage (column expectation : Str) : Str :=
  "User Activity Report column '".toList ++ column ++ "' must ".toList ++ expectation

def requiredString (value column : Str) : Except Exn Str :=
  if isBlank value then .error (.invalidData (columnMessage column "not be empty".toList))
  else .ok value

def parseDate (value : Str) : Except Exn Str :=
  match DateOnly.tryParseExact value with
  | some date => .ok date.format
  | none => .error (.invalidData
      ("User Activity Report Date '".toList ++ value ++ "' is not ISO yyyy-MM-dd".toList))

def parseClientType (value : Str) : Except Exn Str :=
  if supportedClientTypes.contains value then .ok value
  else .error (.invalidData
    ("User Activity Report Client_Type '".toList ++ value ++ "' is not supported".toList))

/-- The white space that number parsing skips. -/
def isNumberSpace (c : Char) : Bool := c.toNat == 0x20 || (9 ≤ c.toNat && c.toNat ≤ 13)

/-- Skip white space and then null characters; both may follow a number. -/
def isNumberEnd (s : Str) : Bool := (s.dropWhile isNumberSpace).all (·.toNat == 0)

/-- `long.TryParse(value, NumberStyles.Integer, InvariantCulture)`. -/
def longTryParse (value : Str) : Option Int :=
  let s := value.dropWhile isNumberSpace
  let negative := s.head? == some '-'
  let body := if negative || s.head? == some '+' then s.drop 1 else s
  let digits := body.takeWhile Char.isDigit
  if digits = [] || !isNumberEnd (body.drop digits.length) then none
  else
    let magnitude : Int := digits.foldl (fun n c => n * 10 + (c.toNat - 48)) 0
    let parsed := if negative then -magnitude else magnitude
    if -(2 ^ 63) ≤ parsed ∧ parsed < 2 ^ 63 then some parsed else none

def parseNonNegativeLong (value column : Str) : Except Exn Int :=
  match longTryParse value with
  | some parsed =>
    if parsed < 0 then
      .error (.invalidData (columnMessage column "be a non-negative integer".toList))
    else .ok parsed
  | none => .error (.invalidData (columnMessage column "be a non-negative integer".toList))

def parseNonNegativeFiniteDouble (platform : Platform) (value column : Str) : Except Exn Double :=
  match platform.doubleTryParse value with
  | some parsed =>
    if !parsed.isFinite || parsed.isNegative then
      .error (.invalidData (columnMessage column "be a non-negative finite number".toList))
    else .ok parsed
  | none => .error (.invalidData (columnMessage column "be a non-negative finite number".toList))

/-- The characters that `bool.TryParse` trims from both ends. -/
def isBoolPadding (c : Char) : Bool := isWhiteSpace c || c.toNat == 0

/-- `bool.TryParse`. -/
def boolTryParse (value : Str) : Option Bool :=
  let trimmed := ((value.dropWhile isBoolPadding).reverse.dropWhile isBoolPadding).reverse
  if trimmed.map Char.toUpper = "TRUE".toList then some true
  else if trimmed.map Char.toUpper = "FALSE".toList then some false
  else none

def parseBool (value column : Str) : Except Exn Bool :=
  match boolTryParse value with
  | some parsed => .ok parsed
  | none => .error (.invalidData (columnMessage column "be true or false".toList))

/-- The state of the row loop. Partitions stay in the order of their creation. -/
structure Accumulator where
  partitions : List FactPartition
  usageGrains : List (Str × Str × Str)
  rowsKept : Nat

def getOrCreatePartition (partitions : List FactPartition) (date clientType : Str) :
    List FactPartition :=
  if partitions.any fun partition => partition.date = date ∧ partition.clientType = clientType then
    partitions
  else partitions ++ [⟨date, clientType, [], []⟩]

/-- Add rows to the partition of a date and client type. -/
def addRows (partitions : List FactPartition) (date clientType : Str) (usage : UsageDailyRecord)
    (messages : List ModelMessageRecord) : List FactPartition :=
  partitions.map fun partition =>
    if partition.date = date ∧ partition.clientType = clientType then
      { partition with
        usageDaily := partition.usageDaily ++ [usage]
        modelMessages := partition.modelMessages ++ messages }
    else partition

def readUsage (platform : Platform) (row : List Str) (index : ColumnIndex) (userId email : Str) :
    Except Exn UsageDailyRecord := do
  let chatConversations ←
    parseNonNegativeLong (← field row index colChatConversations) colChatConversations
  let creditsUsed ←
    parseNonNegativeFiniteDouble platform (← field row index colCreditsUsed) colCreditsUsed
  let overageCap ←
    parseNonNegativeFiniteDouble platform (← field row index colOverageCap) colOverageCap
  let overageCreditsUsed ←
    parseNonNegativeFiniteDouble platform (← field row index colOverageCreditsUsed)
      colOverageCreditsUsed
  let overageEnabled ← parseBool (← field row index colOverageEnabled) colOverageEnabled
  let subscriptionTier ←
    requiredString (← field row index colSubscriptionTier) colSubscriptionTier
  let totalMessages ← parseNonNegativeLong (← field row index colTotalMessages) colTotalMessages
  let newUser ← parseBool (← field row index colNewUser) colNewUser
  let profileId ← requiredString (← field row index colProfileId) colProfileId
  return ⟨userId, email, chatConversations, creditsUsed, overageCap, overageCreditsUsed,
    overageEnabled, subscriptionTier, totalMessages, newUser, profileId⟩

/-- The unpivot loop over the model columns of one row. Zero cells give no
record. -/
def unpivot (header row : List Str) (userId email : Str) :
    List (Nat × Str) → Except Exn (List ModelMessageRecord)
  | [] => .ok []
  | (columnIndex, model) :: rest => do
    let messages ← parseNonNegativeLong (← cell row columnIndex) (← cell header columnIndex)
    let others ← unpivot header row userId email rest
    return if messages = 0 then others else ⟨userId, email, model, messages⟩ :: others

def duplicateGrainMessage (date userId clientType : Str) : Str :=
  "User Activity Report contains duplicate Daily Usage Fact grain (".toList ++ date ++
    ", ".toList ++ userId ++ ", ".toList ++ clientType ++ ")".toList

/-- One turn of the row loop. -/
def processRow (platform : Platform) (targetList : Str → Bool) (header : List Str)
    (index : ColumnIndex) (modelColumns : List (Nat × Str)) (acc : Accumulator) (row : List Str) :
    Except Exn Accumulator := do
  if row.length ≠ header.length then
    throw (.invalidData (Csv.rowWidthMessage row.length header.length))
  let email ← requiredString (← field row index colUserEmail) colUserEmail
  if !targetList email then
    return acc
  let date ← parseDate (← field row index colDate)
  let clientType ← parseClientType (← field row index colClientType)
  let userId ← requiredString (← field row index colUserId) colUserId
  let grain := (date, userId, clientType)
  if acc.usageGrains.contains grain then
    throw (.invalidData (duplicateGrainMessage date userId clientType))
  let partitions := getOrCreatePartition acc.partitions date clientType
  let usage ← readUsage platform row index userId email
  let messages ← unpivot header row userId email modelColumns
  return ⟨addRows partitions date clientType usage messages, grain :: acc.usageGrains,
    acc.rowsKept + 1⟩

def transform (platform : Platform) (csvText : CsvText) (targetList : Str → Bool) :
    Except Exn TransformResult := do
  let (header, rows) ← Csv.parse csvText
  if header.length = 0 then
    throw (.invalidData "User Activity Report is empty".toList)
  let (index, modelColumns) ← readHeader 0 header [] []
  requireColumns index requiredColumns
  let acc ← rows.foldlM (processRow platform targetList header index modelColumns) ⟨[], [], 0⟩
  return ⟨rows.length, acc.rowsKept, acc.partitions⟩

/-- The part of the key after the last slash, without a `.csv` ending in any
letter case. -/
def baseName (sourceKey : Str) : Str :=
  let name := afterLast '/' sourceKey
  if endsWithIgnoreCase name ".csv".toList then name.take (name.length - 4) else name

def sourceId (sourceBucket sourceKey : Str) : Str :=
  toHexStringLower (Sha256.hashData (utf8Bytes (sourceBucket ++ '\n' :: sourceKey)))

def parquetSuffix : Str := ".parquet".toList

def outputFileName (sourceBucket sourceKey : Str) : Str :=
  baseName sourceKey ++ '-' :: (sourceId sourceBucket sourceKey).take 16 ++ parquetSuffix

def outputKey (factPrefix date clientType sourceBucket sourceKey : Str) : Str :=
  factPrefix ++ "/date=".toList ++ date ++ "/client_type=".toList ++ clientType ++
    '/' :: outputFileName sourceBucket sourceKey

end ReportTransform

end KiroIngest
