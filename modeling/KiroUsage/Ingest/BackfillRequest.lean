import KiroUsage.Ingest.Facts

/-! The payload of a backfill as a JSON document: how it is written, read back
and validated. Texts and documents are identified; a document keeps its
members in order and may repeat a name. -/
namespace KiroIngest

open Text

inductive Json where
  | null
  | bool (value : Bool)
  | number (literal : Str)
  | string (value : Str)
  | array (items : List Json)
  | object (members : List (Str × Json))

/-- `JsonElement.TryGetProperty`. The last member of that exact name counts. -/
def tryGetProperty (members : List (Str × Json)) (name : Str) : Option Json :=
  (members.reverse.find? (·.1 == name)).map Prod.snd

/-- `BackfillRequest`. Its mode is a string that a document may set to null. -/
structure BackfillRequest where
  mode : Option Str := some []
  fromDate : Option DateOnly := none
  toDate : Option DateOnly := none
  continuationToken : Option Str := none
deriving DecidableEq

namespace BackfillRequest

def modeValue : Str := "backfill".toList

def jsonError : Exn := .json "The JSON value could not be converted".toList

def readString : Json → Except Exn (Option Str)
  | .null => .ok none
  | .string value => .ok (some value)
  | _ => .error jsonError

/-- A nullable `DateOnly` is null or a string of the form yyyy-MM-dd. -/
def readDate : Json → Except Exn (Option DateOnly)
  | .null => .ok none
  | .string value =>
    match DateOnly.tryParseExact value with
    | some date => .ok (some date)
    | none => .error jsonError
  | _ => .error jsonError

/-- The properties that have a `JsonPropertyName`. -/
inductive Property where
  | mode
  | fromDate
  | toDate
  | continuationToken

def Property.name : Property → Str
  | mode => "mode".toList
  | fromDate => "from".toList
  | toDate => "to".toList
  | continuationToken => "continuationToken".toList

/-- The property of a member. Names are matched ignoring case. -/
def property? (name : Str) : Option Property :=
  [Property.mode, .fromDate, .toDate, .continuationToken].find? (equalsIgnoreCase name ·.name)

/-- Assign one member. A member that is no property is skipped. -/
def readMember (request : BackfillRequest) (member : Str × Json) : Except Exn BackfillRequest :=
  match property? member.1 with
  | some .mode => do return { request with mode := ← readString member.2 }
  | some .fromDate => do return { request with fromDate := ← readDate member.2 }
  | some .toDate => do return { request with toDate := ← readDate member.2 }
  | some .continuationToken => do
    return { request with continuationToken := ← readString member.2 }
  | none => .ok request

/-- `JsonSerializer.Deserialize<BackfillRequest>`, which is null for null. -/
def deserialize : Json → Except Exn (Option BackfillRequest)
  | .null => .ok none
  | .object members => do return some (← members.foldlM readMember {})
  | _ => .error jsonError

def writeString : Option Str → Json
  | none => .null
  | some value => .string value

def writeDate : Option DateOnly → Json
  | none => .null
  | some date => .string date.format

/-- The members of `JsonSerializer.Serialize`, in the order of the properties. -/
def members (request : BackfillRequest) : List (Str × Json) :=
  [(Property.mode.name, writeString request.mode),
    (Property.fromDate.name, writeDate request.fromDate),
    (Property.toDate.name, writeDate request.toDate),
    (Property.continuationToken.name, writeString request.continuationToken)]

def serialize (request : BackfillRequest) : Json := .object request.members

/-- `from > to` on nullable dates, which is false unless both are there. -/
def reversed : Option DateOnly → Option DateOnly → Bool
  | some fromDate, some toDate => toDate < fromDate
  | _, _ => false

def reversedError : Exn :=
  .argument "Backfill 'from' date must be on or before 'to' date".toList

def modeError : Exn :=
  .invalidOperation ("Unsupported Lambda mode; expected '".toList ++ modeValue ++ "'".toList)

def validate (request : BackfillRequest) : Except Exn Unit :=
  if request.mode ≠ some modeValue then .error modeError
  else if reversed request.fromDate request.toDate then .error reversedError
  else if request.continuationToken.any isBlank then
    .error (.argument "Backfill continuation token must not be blank".toList)
  else .ok ()

@[simp] theorem readString_writeString (value : Option Str) :
    readString (writeString value) = .ok value := by
  cases value <;> rfl

@[simp] theorem readDate_writeDate (value : Option DateOnly) :
    readDate (writeDate value) = .ok value := by
  cases value with
  | none => rfl
  | some date => simp only [writeDate, readDate, DateOnly.tryParseExact_format]

@[simp] theorem property?_name (property : Property) : property? property.name = some property := by
  cases property <;> rfl

/-- The members are read back one by one, each into its own property. -/
theorem deserialize_serialize (request : BackfillRequest) :
    deserialize request.serialize = .ok (some request) := by
  simp only [serialize, deserialize, members, List.foldlM_cons, List.foldlM_nil, readMember,
    property?_name, readString_writeString, readDate_writeDate]
  rfl

/-- A request that continues a backfill is valid. -/
theorem validate_continuation {fromDate toDate : Option DateOnly} {token : Option Str}
    (hOrder : reversed fromDate toDate = false) (hToken : ∀ t ∈ token, isBlank t = false) :
    validate ⟨some modeValue, fromDate, toDate, token⟩ = .ok () := by
  have hBlank : token.any isBlank = false := by
    cases token with
    | none => rfl
    | some t => exact hToken t rfl
  simp [validate, hOrder, hBlank]

end BackfillRequest

end KiroIngest
