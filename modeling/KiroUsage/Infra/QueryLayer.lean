import KiroUsage.Storage.Projection
import KiroUsage.Ingest.Grain
import KiroUsage.Text.DatePattern

/-! The Glue tables over the facts. Athena computes the locations of their
partitions from table properties that no code shares with the ingest function;
this module says which published objects these locations reach. -/
namespace KiroInfra

open Text Storage KiroIngest ReportTransform

/-- The query layer of one analytics bucket. Bucket names have no dollar sign. -/
structure QueryLayer where
  analyticsBucket : Str
  analyticsBucket_valid : '$' ∉ analyticsBucket

namespace QueryLayer

variable (q : QueryLayer)

/-- The two fact tables with their columns. -/
def factTables : List (Str × List (Str × Str)) :=
  [("usage_daily".toList,
      [("user_id".toList, "string".toList), ("user_email".toList, "string".toList),
        ("chat_conversations".toList, "bigint".toList), ("credits_used".toList, "double".toList),
        ("overage_cap".toList, "double".toList), ("overage_credits_used".toList, "double".toList),
        ("overage_enabled".toList, "boolean".toList), ("subscription_tier".toList, "string".toList),
        ("total_messages".toList, "bigint".toList), ("new_user".toList, "boolean".toList),
        ("profile_id".toList, "string".toList)]),
    ("model_messages".toList,
      [("user_id".toList, "string".toList), ("user_email".toList, "string".toList),
        ("model".toList, "string".toList), ("messages".toList, "bigint".toList)])]

def tableNames : List Str := factTables.map Prod.fst

/-- The type of a Parquet column in Glue. -/
def glueType : PropertyType → Str
  | .string => "string".toList
  | .long => "bigint".toList
  | .double => "double".toList
  | .bool => "boolean".toList

/-- The columns of the rows of an object. -/
def rowColumns : ObjectBody → List (Str × PropertyType)
  | .usageDaily _ => UsageDailyRecord.columns
  | .modelMessages _ => ModelMessageRecord.columns
  | .sequencerState _ => []
  | .bytes _ => []

/-- The table with exactly these columns. -/
def tableWith (columns : List (Str × PropertyType)) : Option Str :=
  (factTables.find? fun table =>
    table.2 = columns.map fun column => (column.1, glueType column.2)).map Prod.fst

/-- The table of an object's rows. -/
def factTable (body : ObjectBody) : Option Str := tableWith (rowColumns body)

def scheme : Str := "s3://".toList

def prefixLocation (tableName : Str) : Str :=
  scheme ++ q.analyticsBucket ++ '/' :: tableName ++ ['/']

/-- The properties that both tables share. -/
def sharedParameters : List (Str × Str) :=
  [("classification".toList, "parquet".toList),
    ("projection.enabled".toList, "true".toList),
    ("projection.date.type".toList, "date".toList),
    ("projection.date.format".toList, "yyyy-MM-dd".toList),
    ("projection.date.range".toList, "2026-06-01,NOW".toList),
    ("projection.date.interval".toList, "1".toList),
    ("projection.date.interval.unit".toList, "DAYS".toList),
    ("projection.client_type.type".toList, "enum".toList),
    ("projection.client_type.values".toList, "KIRO_CLI,KIRO_IDE,PLUGIN".toList)]

/-- Only the prefix of the template differs between the tables. -/
def projectionParameters (prefixLocation : Str) : List (Str × Str) :=
  sharedParameters ++
    [("storage.location.template".toList,
      prefixLocation ++ "date=$\x7bdate\x7d/client_type=$\x7bclient_type\x7d".toList)]

end QueryLayer

/-- One end of a date range, which may be the current date. -/
def rangeBound (pattern : DatePattern) (now : DateOnly) (text : Str) : Option DateOnly :=
  if text = "NOW".toList then some now else pattern.read text

def dateRange (pattern : DatePattern) (now : DateOnly) (text : Str) : Option (DateOnly × DateOnly) :=
  match text.splitOn ',' with
  | [first, last] => do return (← rangeBound pattern now first, ← rangeBound pattern now last)
  | _ => none

/-- The text of a partition column, dates in the pattern of their column. -/
def partitionColumn (pattern : DatePattern) (partition : DateOnly × Str) (name : Str) : Str :=
  if name = "date".toList then pattern.render partition.1
  else if name = "client_type".toList then partition.2
  else []

/-- How Athena reads the properties of a table, of which only the classification has
no part in its partitions. A date column in steps of one day and an enumerated client
type are understood here, and properties of any other kind give no projection. -/
def athenaProjection (parameters : List (Str × Str)) (now : DateOnly) :
    Option (Projection (DateOnly × Str)) := do
  guard (parameters.lookup "projection.enabled".toList = some "true".toList)
  guard (parameters.lookup "projection.date.type".toList = some "date".toList)
  guard (parameters.lookup "projection.date.interval".toList = some "1".toList)
  guard (parameters.lookup "projection.date.interval.unit".toList = some "DAYS".toList)
  guard (parameters.lookup "projection.client_type.type".toList = some "enum".toList)
  let pattern ← DatePattern.ofText (← parameters.lookup "projection.date.format".toList)
  let range ← dateRange pattern now (← parameters.lookup "projection.date.range".toList)
  let values := (← parameters.lookup "projection.client_type.values".toList).splitOn ','
  let template ← parameters.lookup "storage.location.template".toList
  return ⟨template, fun partition =>
    range.1 ≤ partition.1 ∧ partition.1 ≤ range.2 ∧ partition.2 ∈ values, partitionColumn pattern⟩

/-- The first projected date. -/
def earliestDate : DateOnly := ⟨2026, 6, 1, by decide, by decide, by decide⟩

/-- Where Athena looks for a partition of a table. -/
def QueryLayer.partitionLocation (q : QueryLayer) (tableName : Str) (partition : DateOnly × Str) : Str :=
  q.prefixLocation tableName ++ "date=".toList ++ partition.1.format ++ "/client_type=".toList ++
    partition.2

section Projected

variable (q : QueryLayer)

theorem projected_clientTypes :
    "KIRO_CLI,KIRO_IDE,PLUGIN".toList.splitOn ',' = supportedClientTypes := by
  decide

theorem projected_dates :
    "2026-06-01,NOW".toList.splitOn ',' = ["2026-06-01".toList, "NOW".toList] := by
  decide

theorem dateRange_eq (now : DateOnly) :
    dateRange DatePattern.iso now "2026-06-01,NOW".toList = some (earliestDate, now) := by
  have hNow : "2026-06-01".toList ≠ "NOW".toList := by decide
  have hDate : DatePattern.iso.read "2026-06-01".toList = some earliestDate := by decide
  rw [dateRange, projected_dates]
  simp only [rangeBound, if_neg hNow, hDate, Option.bind_eq_bind, Option.bind_some]
  rfl

/-- Each shared property is found among those of a table. -/
theorem lookup_projectionParameters (location : Str) :
    ∀ property ∈ QueryLayer.sharedParameters,
      (QueryLayer.projectionParameters location).lookup property.1 = some property.2 := by
  have hShared : ∀ property ∈ QueryLayer.sharedParameters,
      QueryLayer.sharedParameters.lookup property.1 = some property.2 := by
    decide
  intro property hProperty
  rw [QueryLayer.projectionParameters, List.lookup_append, hShared property hProperty, Option.some_or]

theorem lookup_template (location : Str) :
    (QueryLayer.projectionParameters location).lookup "storage.location.template".toList =
      some (location ++ "date=$\x7bdate\x7d/client_type=$\x7bclient_type\x7d".toList) := by
  have hShared : QueryLayer.sharedParameters.lookup "storage.location.template".toList = none := by
    decide
  rw [QueryLayer.projectionParameters, List.lookup_append, hShared, Option.none_or,
    List.lookup_cons_self]

/-- The properties of the fact tables as Athena reads them. -/
theorem athenaProjection_eq (location : Str) (now : DateOnly) :
    athenaProjection (QueryLayer.projectionParameters location) now =
      some ⟨location ++ "date=$\x7bdate\x7d/client_type=$\x7bclient_type\x7d".toList,
        fun partition => earliestDate ≤ partition.1 ∧ partition.1 ≤ now ∧
          partition.2 ∈ supportedClientTypes, partitionColumn DatePattern.iso⟩ := by
  have hShared := lookup_projectionParameters location
  simp only [QueryLayer.sharedParameters, List.forall_mem_cons] at hShared
  obtain ⟨_, hEnabled, hDate, hFormat, hRange, hInterval, hUnit, hType, hValues, _⟩ := hShared
  unfold athenaProjection
  simp only [hEnabled, hDate, hFormat, hRange, hInterval, hUnit, hType, hValues, lookup_template,
    guard_true, Option.bind_eq_bind, Option.bind_some, DatePattern.ofText_iso, dateRange_eq,
    projected_clientTypes]
  rfl

theorem dollar_not_mem_prefixLocation {tableName : Str} (h : tableName ∈ QueryLayer.tableNames) :
    '$' ∉ q.prefixLocation tableName := by
  have hName : '$' ∉ tableName := by
    rcases List.mem_cons.mp h with rfl | h
    · decide
    · rw [List.mem_singleton.mp h]
      decide
  have hScheme : '$' ∉ QueryLayer.scheme := by decide
  simp only [QueryLayer.prefixLocation, List.mem_append, List.mem_cons, not_or]
  exact ⟨⟨⟨hScheme, q.analyticsBucket_valid⟩, by decide, hName⟩, by decide, by simp⟩

/-- The template gives each partition its own directory. -/
theorem location_eq {tableName : Str} (h : tableName ∈ QueryLayer.tableNames)
    (partition : DateOnly × Str) :
    expand (partitionColumn DatePattern.iso partition) (q.prefixLocation tableName ++
      "date=$\x7bdate\x7d/client_type=$\x7bclient_type\x7d".toList) none =
      q.partitionLocation tableName partition := by
  have hTemplate : "date=$\x7bdate\x7d/client_type=$\x7bclient_type\x7d".toList =
      "date=".toList ++ '$' :: '{' :: ("date".toList ++ '}' :: ("/client_type=".toList ++
        '$' :: '{' :: ("client_type".toList ++ '}' :: []))) := by
    decide
  have hDollar := dollar_not_mem_prefixLocation q h
  have hDate : '$' ∉ "date=".toList := by decide
  have hType : '$' ∉ "/client_type=".toList := by decide
  have hNames : '}' ∉ "date".toList ∧ '}' ∉ "client_type".toList := by decide
  have hColumn : partitionColumn DatePattern.iso partition "client_type".toList = partition.2 := by
    rw [partitionColumn, if_neg (by decide), if_pos rfl]
  rw [hTemplate, expand_literal hDollar, expand_literal hDate, expand_placeholder hNames.1,
    expand_literal hType, expand_placeholder hNames.2, hColumn,
    show partitionColumn DatePattern.iso partition "date".toList = DatePattern.iso.render partition.1
      from if_pos rfl, DatePattern.render_iso]
  simp only [QueryLayer.partitionLocation, expand, List.append_assoc, List.append_nil]

end Projected

namespace QueryLayer

variable (q : QueryLayer)

/-- The address of an object of the analytics bucket. -/
def address (key : Str) : Str := scheme ++ q.analyticsBucket ++ '/' :: key

/-- The object lies in the directory of a table. -/
def Holds (tableName key : Str) : Prop := q.prefixLocation tableName <+: q.address key

/-- Athena looks for the object in this partition of the table. -/
def Locates (tableName : Str) (now : DateOnly) (key : Str) (partition : DateOnly × Str) : Prop :=
  ∃ projection ∈ athenaProjection (projectionParameters (q.prefixLocation tableName)) now,
    projection.Locates (q.address key) partition

variable {q}

theorem locates_iff {tableName : Str} (h : tableName ∈ tableNames) {now : DateOnly} {key : Str}
    {partition : DateOnly × Str} : q.Locates tableName now key partition ↔
      (earliestDate ≤ partition.1 ∧ partition.1 ≤ now ∧ partition.2 ∈ supportedClientTypes) ∧
        q.partitionLocation tableName partition ++ ['/'] <+: q.address key := by
  simp only [Locates, athenaProjection_eq, Option.mem_some_iff, exists_eq_left',
    Projection.Locates, Projection.location, location_eq q h]

/-- A segment that ends a directory name is determined by the address. -/
theorem segment_eq {segment other rest : Str} (hSegment : '/' ∉ segment) (hOther : '/' ∉ other)
    (h : segment ++ ['/'] <+: other ++ '/' :: rest) : segment = other := by
  have hStop {s : Str} (hs : '/' ∉ s) : ∀ c ∈ s, (c ≠ '/' : Bool) = true := by
    intro c hc
    simpa using fun he : c = '/' => hs (he ▸ hc)
  obtain ⟨tail, hTail⟩ := h
  have hTake := congrArg (List.takeWhile (fun c => (c ≠ '/' : Bool))) hTail
  rw [List.append_assoc, List.takeWhile_append_of_pos (hStop hSegment),
    List.takeWhile_append_of_pos (hStop hOther)] at hTake
  simpa using hTake

/-- Only one directory of a table leads to a published object. -/
theorem location_prefix_iff {tableName clientType : Str} {date : DateOnly}
    (hType : clientType ∈ supportedClientTypes) (bucket key : Str) {partition : DateOnly × Str}
    (hPartition : partition.2 ∈ supportedClientTypes) :
    q.partitionLocation tableName partition ++ ['/'] <+:
        q.address (outputKey tableName date.format clientType bucket key) ↔
      partition = (date, clientType) := by
  have hDate : "/date=".toList = '/' :: "date=".toList := by decide
  have hAddress : q.address (outputKey tableName date.format clientType bucket key) =
      q.prefixLocation tableName ++ "date=".toList ++ (date.format ++ ("/client_type=".toList ++
        (clientType ++ '/' :: outputFileName bucket key))) := by
    simp only [address, outputKey, prefixLocation, hDate, List.append_assoc, List.cons_append,
      List.nil_append]
  have hLocation : q.partitionLocation tableName partition ++ ['/'] =
      q.prefixLocation tableName ++ "date=".toList ++ (partition.1.format ++
        ("/client_type=".toList ++ (partition.2 ++ ['/']))) := by
    simp only [partitionLocation, List.append_assoc]
  rw [hAddress, hLocation, List.prefix_append_right_inj]
  constructor
  · rintro ⟨tail, hTail⟩
    rw [List.append_assoc] at hTail
    obtain ⟨hSame, hRest⟩ := List.append_inj hTail rfl
    rw [List.append_assoc] at hRest
    have hSegment : partition.2 = clientType :=
      segment_eq (slash_not_mem_clientType hPartition) (slash_not_mem_clientType hType)
        ⟨tail, List.append_cancel_left hRest⟩
    exact Prod.ext (DateOnly.format_injective hSame) hSegment
  · rintro rfl
    exact ⟨outputFileName bucket key, by
      simp only [List.append_assoc, List.cons_append, List.nil_append]⟩

theorem slash_not_mem_tableName {tableName : Str} (h : tableName ∈ tableNames) :
    '/' ∉ tableName := by
  rcases List.mem_cons.mp h with rfl | h
  · decide
  · rw [List.mem_singleton.mp h]
    decide

/-- An object of a fact lies in the directory of the table of that fact only. -/
theorem holds_iff {tableName factPrefix : Str} (hTable : tableName ∈ tableNames)
    (hFact : factPrefix ∈ tableNames) (date clientType bucket key : Str) :
    q.Holds tableName (outputKey factPrefix date clientType bucket key) ↔
      tableName = factPrefix := by
  have hDate : "/date=".toList = '/' :: "date=".toList := by decide
  have hAddress : q.address (outputKey factPrefix date clientType bucket key) =
      scheme ++ q.analyticsBucket ++ ['/'] ++ (factPrefix ++ '/' :: ("date=".toList ++ date ++
        "/client_type=".toList ++ clientType ++ '/' :: outputFileName bucket key)) := by
    simp only [address, outputKey, hDate, List.append_assoc, List.cons_append, List.nil_append]
  have hLocation : q.prefixLocation tableName =
      scheme ++ q.analyticsBucket ++ ['/'] ++ (tableName ++ ['/']) := by
    simp only [prefixLocation, List.append_assoc, List.cons_append, List.nil_append]
  rw [Holds, hAddress, hLocation, List.prefix_append_right_inj]
  constructor
  · exact segment_eq (slash_not_mem_tableName hTable) (slash_not_mem_tableName hFact)
  · rintro rfl
    exact ⟨_, by rw [List.append_assoc]; rfl⟩

/-- The partition of a published object is the only one that leads to it. -/
theorem locates_outputKey_iff {tableName clientType : Str} {date now : DateOnly}
    (hTable : tableName ∈ tableNames) (hType : clientType ∈ supportedClientTypes) (hNow : date ≤ now)
    {bucket key : Str} {partition : DateOnly × Str} :
    q.Locates tableName now (outputKey tableName date.format clientType bucket key) partition ↔
      partition = (date, clientType) ∧ earliestDate ≤ date := by
  rw [locates_iff hTable]
  constructor
  · rintro ⟨⟨hEarliest, _, hValue⟩, hPrefix⟩
    obtain rfl := (location_prefix_iff hType _ _ hValue).mp hPrefix
    exact ⟨rfl, hEarliest⟩
  · rintro ⟨rfl, hEarliest⟩
    exact ⟨⟨hEarliest, hNow, hType⟩, (location_prefix_iff hType _ _ hType).mpr rfl⟩

theorem holds_of_locates {tableName : Str} (h : tableName ∈ tableNames) {now : DateOnly} {key : Str}
    {partition : DateOnly × Str} (hLocates : q.Locates tableName now key partition) :
    q.Holds tableName key := by
  have hTable : q.prefixLocation tableName <+: q.partitionLocation tableName partition ++ ['/'] := by
    simp only [partitionLocation, List.append_assoc]
    exact List.prefix_append _ _
  exact hTable.trans ((locates_iff h).mp hLocates).2

/-- The columns of each fact are those of one table, of the name that its objects have. -/
theorem tableWith_usageDaily : tableWith UsageDailyRecord.columns = some usageDailyPrefix := by
  decide

theorem tableWith_modelMessages :
    tableWith ModelMessageRecord.columns = some modelMessagesPrefix := by
  decide

/-- The key of a published object names the table of its rows. -/
theorem factTable_of_mem {source : IngestSource} {p : FactPartition} {output : Str × ObjectBody}
    (h : output ∈ partitionOutputs source p) : ∃ tableName ∈ tableNames,
      factTable output.2 = some tableName ∧
      output.1 = outputKey tableName p.date p.clientType source.bucket source.key := by
  rcases mem_partitionOutputs.mp h with rfl | ⟨_, rfl⟩
  · exact ⟨usageDailyPrefix, List.mem_cons_self, tableWith_usageDaily, rfl⟩
  · exact ⟨modelMessagesPrefix, List.mem_cons_of_mem _ List.mem_cons_self, tableWith_modelMessages, rfl⟩

/-- Every published object lies in the directory of the table of its rows and of no
other. Athena reaches it there through one partition if the date of its rows is not
before the first projected one, and through none otherwise. A partition that leads
to it, of whichever table, has the date and the client type of its rows. -/
theorem queryable_iff (q : QueryLayer) {platform : Platform} {csvText : CsvText}
    {targetList : Str → Bool} {result : TransformResult}
    (hAccepted : transform platform csvText targetList = .ok result) (source : IngestSource)
    {p : FactPartition} (hPartition : p ∈ result.partitions) {output : Str × ObjectBody}
    (hOutput : output ∈ partitionOutputs source p) :
    ∃ date : DateOnly, p.date = date.format ∧
      ∃ tableName ∈ tableNames, factTable output.2 = some tableName ∧
        (∀ other ∈ tableNames, q.Holds other output.1 ↔ other = tableName) ∧
        ∀ now, date ≤ now →
          ((∃! partition, q.Locates tableName now output.1 partition) ↔ earliestDate ≤ date) ∧
          ((∃ partition, q.Locates tableName now output.1 partition) → earliestDate ≤ date) ∧
          ∀ other ∈ tableNames, ∀ partition, q.Locates other now output.1 partition →
            other = tableName ∧ (partition.1.format, partition.2) = p.path := by
  obtain ⟨acc, hInv, hPartitions⟩ := transform_inv hAccepted
  obtain ⟨date, hDate⟩ := hInv.dates p (hPartitions ▸ hPartition)
  have hType := hInv.clientTypes p (hPartitions ▸ hPartition)
  obtain ⟨tableName, hTable, hFact, hKey⟩ := factTable_of_mem hOutput
  rw [hDate] at hKey
  have hHolds : ∀ other ∈ tableNames, q.Holds other output.1 ↔ other = tableName := by
    intro other hOther
    rw [hKey]
    exact holds_iff hOther hTable _ _ _ _
  refine ⟨date, hDate, tableName, hTable, hFact, hHolds, ?_⟩
  intro now hNow
  have hLocates {partition : DateOnly × Str} : q.Locates tableName now output.1 partition ↔
      partition = (date, p.clientType) ∧ earliestDate ≤ date := by
    rw [hKey]
    exact locates_outputKey_iff hTable hType hNow
  have hProjected (h : ∃ partition, q.Locates tableName now output.1 partition) :
      earliestDate ≤ date := by
    obtain ⟨partition, hPartition⟩ := h
    exact (hLocates.mp hPartition).2
  refine ⟨⟨fun h => hProjected h.exists, fun hEarliest => ?_⟩, hProjected, ?_⟩
  · exact ⟨_, hLocates.mpr ⟨rfl, hEarliest⟩, fun _ h => (hLocates.mp h).1⟩
  · intro other hOther partition hOtherLocates
    obtain rfl := (hHolds other hOther).mp (holds_of_locates hOther hOtherLocates)
    obtain ⟨rfl, _⟩ := hLocates.mp hOtherLocates
    exact ⟨rfl, congrArg (·, p.clientType) hDate.symm⟩

end QueryLayer

section Example

def exampleQueryLayer : QueryLayer := ⟨['a'], by decide⟩

theorem day_valid {year month : Nat} (day : Nat) (h : day ≤ 28) (hPositive : 1 ≤ day) :
    1 ≤ day ∧ day ≤ daysInMonth year month := by
  refine ⟨hPositive, h.trans ?_⟩
  unfold daysInMonth
  split_ifs <;> omega

def exampleDate : DateOnly := ⟨2026, 6, 20, by decide, by decide, day_valid 20 (by decide) (by decide)⟩

def exampleModelKey : Str :=
  outputKey modelMessagesPrefix "2026-06-20".toList "KIRO_CLI".toList ['b'] ['k']

/-- The published model messages of the example's report are found in their table on
their own day, and the other table does not hold them. -/
theorem queryable_iff_example :
    (∃! partition, exampleQueryLayer.Locates modelMessagesPrefix exampleDate exampleModelKey partition) ∧
      ¬exampleQueryLayer.Holds usageDailyPrefix exampleModelKey := by
  have hFormat : "2026-06-20".toList = exampleDate.format := by decide
  obtain ⟨date, hDate, tableName, _, hTable, hHolds, hAll⟩ :=
    exampleQueryLayer.queryable_iff exampleReport_accepted exampleSource List.mem_cons_self
      (List.mem_cons_of_mem _ List.mem_cons_self)
  obtain rfl : exampleDate = date := DateOnly.format_injective (hFormat.symm.trans hDate)
  obtain rfl : modelMessagesPrefix = tableName :=
    Option.some.inj (QueryLayer.tableWith_modelMessages.symm.trans hTable)
  refine ⟨(hAll exampleDate (Nat.le_refl _)).1.mpr (by decide), fun hOther => ?_⟩
  have hSame := (hHolds usageDailyPrefix List.mem_cons_self).mp hOther
  exact absurd hSame (by decide)

/-- A report of the day before the first projected one. -/
def exampleEarlyReport : CsvText where
  records := [some requiredColumns,
    some ["2026-05-31".toList, ['u'], "KIRO_CLI".toList, ['1'], ['0'], ['0'], ['0'], "false".toList,
      ['p'], ['t'], ['2'], "false".toList, ['a']]]

def exampleEarlyResult : TransformResult where
  rowsRead := 1
  rowsKept := 1
  partitions := [⟨"2026-05-31".toList, "KIRO_CLI".toList,
    [⟨['u'], ['a'], 1, 0, 0, 0, false, ['t'], 2, false, ['p']⟩], []⟩]

def exampleEarlyDate : DateOnly :=
  ⟨2026, 5, 31, by decide, by decide, by decide⟩

/-- The early report is accepted and published, and no query ever finds it. -/
theorem unqueryable :
    transform examplePlatform exampleEarlyReport (· = ['a']) = .ok exampleEarlyResult ∧
      ∃ body, (outputKey usageDailyPrefix "2026-05-31".toList "KIRO_CLI".toList ['b'] ['k'], body) ∈
        prepareOutputs exampleSource exampleEarlyResult ∧
      ∀ now, exampleEarlyDate ≤ now → ¬∃ partition, exampleQueryLayer.Locates usageDailyPrefix now
        (outputKey usageDailyPrefix "2026-05-31".toList "KIRO_CLI".toList ['b'] ['k']) partition := by
  have hFormat : "2026-05-31".toList = exampleEarlyDate.format := by decide
  have hType : "KIRO_CLI".toList ∈ supportedClientTypes := List.mem_cons_self
  have hEarly : ¬earliestDate ≤ exampleEarlyDate := by decide
  refine ⟨Fallible.eq_ok_of_toOption (by decide), _, List.mem_cons_self, ?_⟩
  rintro now hNow ⟨partition, hLocates⟩
  rw [hFormat] at hLocates
  exact hEarly ((QueryLayer.locates_outputKey_iff List.mem_cons_self hType hNow).mp hLocates).2

end Example

end KiroInfra
