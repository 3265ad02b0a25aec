import KiroUsage.Ingest.Isolation

/-! The grain of the daily usage table: date, user and client type. It is unique
among the rows of one raw object. Nothing compares the rows of different raw
objects, so copies of a report are all counted. -/
namespace KiroIngest

open Text Storage Execution ReportTransform

/-- The partition columns that a query reads from the path of an object. -/
def pathColumns (key : Str) : Str × Str :=
  let columns := key.drop (usageDailyPrefix ++ "/date=".toList).length
  (columns.take 10, (columns.drop (10 + "/client_type=".toList.length)).takeWhile (· ≠ '/'))

/-- The rows of the daily usage table, each with the key of its object. -/
def World.usageDailyTable (w : World) : List (Str × UsageDailyRecord) :=
  (w.analytics.entries.filter fun entry => (usageDailyPrefix ++ ['/']).isPrefixOf entry.1).flatMap
    fun entry => entry.2.usageRows.map fun row => (entry.1, row)

/-- Date, client type and user of a row. -/
def grain (row : Str × UsageDailyRecord) : (Str × Str) × Str := (pathColumns row.1, row.2.userId)

/-- The report has a row of this grain. -/
def HasGrain (result : TransformResult) (g : (Str × Str) × Str) : Prop :=
  ∃ p ∈ result.partitions, ∃ row ∈ p.usageDaily, g = (p.path, row.userId)

/-- Runs of undisturbed processings over accepted reports, with the reports
processed. In between raw objects and the Target List may change. -/
inductive Processings (s : IngestService) : List (IngestSource × TransformResult) → World → Prop
  | start {w : World} (h : ∀ key, isFactKey key = true → w.analytics.lookup key = none) :
      Processings s [] w
  | process {done : List (IngestSource × TransformResult)} {w : World} (h : Processings s done w)
      (source : IngestSource) {result : TransformResult}
      (hAccepted : s.transformed source w = .ok result) (paging : Paging) :
      Processings s (done ++ [(source, result)])
        (s.processCsvAsync source Plan.healthy 0 { w with paging }).state
  | change {done : List (IngestSource × TransformResult)} {w : World} (h : Processings s done w)
      (raw : List RawVersion) (targetListParameter : Option Str) :
      Processings s done { w with raw, targetListParameter }

/-- The objects with one file name come from one accepted report. -/
def Generated (s : IngestService) (done : List (IngestSource × TransformResult)) (w : World) : Prop :=
  ∀ name, (∀ key, isFactKey key = true → getFileName key = name → w.analytics.lookup key = none) ∨
    ∃ report ∈ done, currentFileName report.1 = name ∧
      (∃ csvText targetList, transform s.platform csvText targetList = .ok report.2) ∧
      ∀ key body, isFactKey key = true → getFileName key = name →
        w.analytics.lookup key = some body → (key, body) ∈ prepareOutputs report.1 report.2

section Origin

variable {s : IngestService} {done : List (IngestSource × TransformResult)} {w : World}

/-- A processing replaces the objects with its own names, and only those. -/
theorem Generated.process (h : Generated s done w) {source : IngestSource} {result : TransformResult}
    (hAccepted : s.transformed source w = .ok result) (paging : Paging) :
    Generated s (done ++ [(source, result)])
      (s.processCsvAsync source Plan.healthy 0 { w with paging }).state := by
  have hOld {after : World} (hSame : after.analytics = w.analytics) :
      Generated s (done ++ [(source, result)]) after := by
    intro name
    rw [hSame]
    obtain hNone | ⟨report, hm, hReport⟩ := h name
    · exact Or.inl hNone
    · exact Or.inr ⟨report, List.mem_append_left _ hm, hReport⟩
  obtain ⟨_, ⟨_, _, hAnalytics⟩ | ⟨_, hAnalytics, _⟩ | ⟨result', complete, _, _, hResult,
    hReconciled, hAnalytics⟩⟩ := s.processCsvAsync_healthy source 0 { w with paging }
  · exact hOld hAnalytics
  · exact hOld hAnalytics
  cases hAccepted.symm.trans hResult
  have hLookup {key : Str} (hFact : isFactKey key = true) :
      (s.processCsvAsync source Plan.healthy 0 { w with paging }).state.analytics.lookup key =
        if owned source key then written (prepareOutputs source result) key
        else w.analytics.lookup key := by
    rw [hAnalytics, lookup_withSequencer (ne_stateKey_of_isFactKey hFact source)]
    exact hReconciled key
  intro name
  by_cases hName : currentFileName source = name
  · obtain ⟨csvText, targetList, _, _, hTransform⟩ := transformed_eq_ok hAccepted
    refine Or.inr ⟨(source, result), by simp, hName, ⟨csvText, targetList, hTransform⟩, ?_⟩
    intro key body hFact hKey hBody
    have hOwned : owned source key = true := by simp [owned, hFact, isOutputOf, hKey, hName]
    rw [hLookup hFact, if_pos hOwned] at hBody
    exact mem_of_written hBody
  · -- What the processing leaves under another name was there before.
    have hBefore {key : Str} {body : ObjectBody} (hFact : isFactKey key = true)
        (hKey : getFileName key = name) (hBody : (s.processCsvAsync source Plan.healthy 0
          { w with paging }).state.analytics.lookup key = some body) :
        w.analytics.lookup key = some body := by
      rw [hLookup hFact] at hBody
      split_ifs at hBody
      · exact absurd ((getFileName_of_mem (mem_of_written hBody)).symm.trans hKey) hName
      · exact hBody
    rcases h name with hNone | ⟨report, hm, hReport, hTransform, hOutputs⟩
    · refine Or.inl fun key hFact hKey => ?_
      rw [Option.eq_none_iff_forall_ne_some]
      intro body hBody
      cases (hNone key hFact hKey).symm.trans (hBefore hFact hKey hBody)
    · refine Or.inr ⟨report, List.mem_append_left _ hm, hReport, hTransform, ?_⟩
      exact fun key body hFact hKey hBody => hOutputs key body hFact hKey (hBefore hFact hKey hBody)

theorem Processings.generated (h : Processings s done w) : Generated s done w := by
  induction h with
  | start h => exact fun name => Or.inl fun key hFact _ => h key hFact
  | process _ source hAccepted paging ih => exact ih.process hAccepted paging
  | change _ _ _ ih => exact ih

end Origin

section Uniqueness

variable {s : IngestService} {done : List (IngestSource × TransformResult)} {w : World}

theorem pathColumns_outputKey {date clientType : Str} (hLength : date.length = 10)
    (hType : '/' ∉ clientType) (bucket key : Str) :
    pathColumns (outputKey usageDailyPrefix date clientType bucket key) = (date, clientType) := by
  have hKey : outputKey usageDailyPrefix date clientType bucket key =
      (usageDailyPrefix ++ "/date=".toList) ++ (date ++ ("/client_type=".toList ++
        (clientType ++ '/' :: outputFileName bucket key))) := by
    simp only [outputKey, List.append_assoc]
  have hStop : ∀ c ∈ clientType, (c ≠ '/' : Bool) = true := by
    intro c hc
    simpa using fun he : c = '/' => hType (he ▸ hc)
  unfold pathColumns
  dsimp only
  rw [hKey, List.drop_left, ← hLength, List.take_left, ← List.append_assoc date, ← List.length_append,
    List.drop_left, List.takeWhile_append_of_pos hStop]
  simp

theorem slash_not_mem_clientType {clientType : Str} (h : clientType ∈ supportedClientTypes) :
    '/' ∉ clientType := by
  revert clientType
  decide

/-- The rows of one accepted output, and where they lie. -/
theorem usageRow_of_mem {platform : Platform} {csvText : CsvText} {targetList : Str → Bool}
    {source : IngestSource} {result : TransformResult}
    (h : transform platform csvText targetList = .ok result) {key : Str} {body : ObjectBody}
    (hOutput : (key, body) ∈ prepareOutputs source result) (hRows : body.usageRows ≠ []) :
    ∃ p ∈ result.partitions,
      key = outputKey usageDailyPrefix p.date p.clientType source.bucket source.key ∧
        body.usageRows = p.usageDaily ∧ pathColumns key = p.path ∧
          (p.usageDaily.map (·.userId)).Nodup := by
  obtain ⟨p, hp, hEq | ⟨_, hEq⟩⟩ := mem_prepareOutputs.mp hOutput
  · cases hEq
    obtain ⟨acc, hInv, hPartitions⟩ := transform_inv h
    have hType := slash_not_mem_clientType (hInv.clientTypes p (hPartitions ▸ hp))
    exact ⟨p, hp, rfl, rfl, pathColumns_outputKey (partition_date_length h hp) hType _ _,
      hInv.users_nodup p (hPartitions ▸ hp)⟩
  · cases hEq
    exact absurd rfl hRows

/-- Two rows of one grain lie in objects of different names, and each is in a
report of its own. -/
def Elsewhere (done : List (IngestSource × TransformResult)) (x y : Str × UsageDailyRecord) : Prop :=
  grain x = grain y → getFileName x.1 ≠ getFileName y.1 ∧
    ∃ p ∈ done, ∃ q ∈ done, currentFileName p.1 ≠ currentFileName q.1 ∧
      HasGrain p.2 (grain x) ∧ HasGrain q.2 (grain x)

/-- A visible row comes from a processed report. -/
theorem Generated.row (h : Generated s done w) {key : Str} {body : ObjectBody}
    (hFact : isFactKey key = true) (hBody : w.analytics.lookup key = some body)
    (hRows : body.usageRows ≠ []) :
    ∃ report ∈ done, currentFileName report.1 = getFileName key ∧ ∃ p ∈ report.2.partitions,
      key = outputKey usageDailyPrefix p.date p.clientType report.1.bucket report.1.key ∧
        body.usageRows = p.usageDaily ∧ pathColumns key = p.path ∧
          (p.usageDaily.map (·.userId)).Nodup := by
  rcases h (getFileName key) with hNone | ⟨report, hm, hName, ⟨_, _, hTransform⟩, hOutputs⟩
  · exact nomatch (hNone key hFact rfl).symm.trans hBody
  · exact ⟨report, hm, hName, usageRow_of_mem hTransform (hOutputs key body hFact rfl hBody) hRows⟩

/-- Rows of one object differ in their users. -/
theorem Generated.rows_of_entry (h : Generated s done w) {key : Str} {body : ObjectBody}
    (hFact : isFactKey key = true) (hBody : w.analytics.lookup key = some body) :
    (body.usageRows.map fun row => (key, row)).Pairwise (Elsewhere done) := by
  rw [List.pairwise_map]
  by_cases hRows : body.usageRows = []
  · rw [hRows]
    exact List.Pairwise.nil
  obtain ⟨_, _, _, p, _, _, hSame, _, hUsers⟩ := h.row hFact hBody hRows
  rw [hSame]
  refine (List.pairwise_map.mp hUsers).imp fun hUser hGrain => ?_
  exact absurd (congrArg Prod.snd hGrain) hUser

/-- Rows of different objects with one grain are of different reports. -/
theorem Generated.rows_of_entries (h : Generated s done w) {key key' : Str} {body body' : ObjectBody}
    (hFact : isFactKey key = true) (hFact' : isFactKey key' = true)
    (hBody : w.analytics.lookup key = some body) (hBody' : w.analytics.lookup key' = some body')
    (hne : key ≠ key') {row row' : UsageDailyRecord} (hRow : row ∈ body.usageRows)
    (hRow' : row' ∈ body'.usageRows) : Elsewhere done (key, row) (key', row') := by
  intro hGrain
  obtain ⟨report, hm, hName, p, hp, hKey, hSame, hPath, _⟩ :=
    h.row hFact hBody (List.ne_nil_of_mem hRow)
  obtain ⟨report', hm', hName', p', hp', hKey', hSame', hPath', _⟩ :=
    h.row hFact' hBody' (List.ne_nil_of_mem hRow')
  have hGrains : p.path = p'.path := by
    rw [← hPath, ← hPath']
    exact congrArg Prod.fst hGrain
  have hNames : getFileName key ≠ getFileName key' := by
    intro hEqual
    have hFile : outputFileName report.1.bucket report.1.key =
        outputFileName report'.1.bucket report'.1.key := hName.trans (hEqual.trans hName'.symm)
    obtain ⟨hDate, hType⟩ := Prod.mk.inj hGrains
    exact hne (by rw [hKey, hKey', outputKey, outputKey, hFile, hDate, hType])
  refine ⟨hNames, report, hm, report', hm', ?_, ⟨p, hp, row, hSame ▸ hRow, ?_⟩,
    ⟨p', hp', row', hSame' ▸ hRow', ?_⟩⟩
  · rwa [hName, hName']
  · rw [← hPath]
    rfl
  · rw [hGrain, ← hPath']
    rfl

theorem Generated.elsewhere (h : Generated s done w) :
    w.usageDailyTable.Pairwise (Elsewhere done) := by
  have hEntry {entry : Sigma fun _ : Str => ObjectBody}
      (hm : entry ∈ w.analytics.entries.filter fun entry =>
        (usageDailyPrefix ++ ['/']).isPrefixOf entry.1) :
      isFactKey entry.1 = true ∧ w.analytics.lookup entry.1 = some entry.2 := by
    obtain ⟨hMem, hPrefix⟩ := List.mem_filter.mp hm
    exact ⟨by simp [isFactKey, hPrefix], AList.mem_lookup_iff.mpr hMem⟩
  have hKeys : (w.analytics.entries.map Sigma.fst).Nodup := w.analytics.nodupKeys
  rw [World.usageDailyTable, List.pairwise_flatMap]
  refine ⟨fun entry hm => h.rows_of_entry (hEntry hm).1 (hEntry hm).2, ?_⟩
  refine ((List.pairwise_map.mp hKeys).filter _).imp_of_mem fun hm hm' hne x hx y hy => ?_
  obtain ⟨row, hRow, rfl⟩ := List.mem_map.mp hx
  obtain ⟨row', hRow', rfl⟩ := List.mem_map.mp hy
  exact h.rows_of_entries (hEntry hm).1 (hEntry hm').1 (hEntry hm).2 (hEntry hm').2 hne hRow hRow'

end Uniqueness

/-- Within the objects of one file name the grain is unique. It is unique in the
whole table where no two objects of different names are made of reports that
share a grain. -/
theorem Processings.grain_unique {s : IngestService} {done : List (IngestSource × TransformResult)}
    {w : World} (h : Processings s done w) :
    (∀ name, ((w.usageDailyTable.filter fun row => getFileName row.1 = name).map grain).Nodup) ∧
      ((∀ p ∈ done, ∀ q ∈ done, currentFileName p.1 ≠ currentFileName q.1 →
        ∀ g, HasGrain p.2 g → ¬HasGrain q.2 g) → (w.usageDailyTable.map grain).Nodup) := by
  have hElsewhere := h.generated.elsewhere
  refine ⟨fun name => ?_, fun hDisjoint => ?_⟩
  · refine List.pairwise_map.mpr ((hElsewhere.filter _).imp_of_mem fun hx hy hDiffer hGrain => ?_)
    refine (hDiffer hGrain).1 ?_
    rw [of_decide_eq_true (List.mem_filter.mp hx).2, of_decide_eq_true (List.mem_filter.mp hy).2]
  · refine List.pairwise_map.mpr (hElsewhere.imp fun hDiffer hGrain => ?_)
    obtain ⟨_, p, hp, q, hq, hne, hpGrain, hqGrain⟩ := hDiffer hGrain
    exact hDisjoint p hp q hq hne _ hpGrain hqGrain

section Example

def exampleCopy : IngestSource :=
  ⟨['b'], ['c'], none, none, exampleSource.bucket_valid, rfl, valid_none⟩

/-- Two raw objects. -/
def exampleObjects (first second : CsvText) : World :=
  exampleWorld [⟨['b'], ['k'], ['1'], first⟩, ⟨['b'], ['c'], ['1'], second⟩] ∅

def exampleFirst (first second : CsvText) : World :=
  (exampleService.processCsvAsync exampleSource Plan.healthy 0
    { exampleObjects first second with paging := Paging.single }).state

/-- Both have been processed. -/
def exampleBoth (first second : CsvText) : World :=
  (exampleService.processCsvAsync exampleCopy Plan.healthy 0
    { exampleFirst first second with paging := Paging.single }).state

theorem exampleBoth_processings {first second : CsvText} {result result' : TransformResult}
    (hFirst : exampleService.transformed exampleSource (exampleObjects first second) = .ok result)
    (hSecond : exampleService.transformed exampleCopy (exampleFirst first second) = .ok result') :
    Processings exampleService [(exampleSource, result), (exampleCopy, result')]
      (exampleBoth first second) := by
  have hStart : Processings exampleService [] (exampleObjects first second) := .start fun _ _ => rfl
  have hOne := hStart.process exampleSource hFirst Paging.single
  exact hOne.process exampleCopy hSecond Paging.single

/-- A report of two days of one user. -/
def exampleDays (userId : Str) : CsvText where
  records := [some exampleHeader, some (exampleRowOf "20".toList userId ['a']),
    some (exampleRowOf "21".toList userId ['a'])]

def exampleDaysResult (userId : Str) : TransformResult where
  rowsRead := 2
  rowsKept := 2
  partitions := ["20".toList, "21".toList].map fun day => ⟨"2026-06-".toList ++ day, "KIRO_CLI".toList,
    [⟨userId, ['a'], 1, 0, 0, 0, false, ['t'], 2, false, ['p']⟩], [⟨userId, ['a'], "auto".toList, 3⟩]⟩

theorem user_of_hasGrain {userId : Str} {g : (Str × Str) × Str}
    (h : HasGrain (exampleDaysResult userId) g) : g.2 = userId := by
  obtain ⟨p, hp, row, hRow, rfl⟩ := h
  obtain ⟨day, _, rfl⟩ := List.mem_map.mp hp
  rw [List.mem_singleton.mp hRow]

/-- Two reports of the same days have no grain in common if their users differ. -/
theorem grain_unique_example :
    let table := (exampleBoth (exampleDays ['u']) (exampleDays ['v'])).usageDailyTable
    table.length = 4 ∧ (table.map grain).Nodup := by
  have hBoth : Processings exampleService
      [(exampleSource, exampleDaysResult ['u']), (exampleCopy, exampleDaysResult ['v'])]
      (exampleBoth (exampleDays ['u']) (exampleDays ['v'])) :=
    exampleBoth_processings (Fallible.eq_ok_of_toOption (by decide +kernel))
      (Fallible.eq_ok_of_toOption (by decide +kernel))
  refine ⟨by decide +kernel, hBoth.grain_unique.2 fun p hp q hq hne g hGrain hGrain' => ?_⟩
  have hUser {report : IngestSource × TransformResult} (hReport : report ∈
      [(exampleSource, exampleDaysResult ['u']), (exampleCopy, exampleDaysResult ['v'])])
      (h : HasGrain report.2 g) :
      report = (exampleSource, exampleDaysResult ['u']) ∧ g.2 = ['u'] ∨
        report = (exampleCopy, exampleDaysResult ['v']) ∧ g.2 = ['v'] := by
    rcases List.mem_cons.mp hReport with rfl | hReport
    · exact Or.inl ⟨rfl, user_of_hasGrain h⟩
    · obtain rfl := List.mem_singleton.mp hReport
      exact Or.inr ⟨rfl, user_of_hasGrain h⟩
  have hUsers : (['u'] : Str) ≠ ['v'] := by decide
  rcases hUser hp hGrain with ⟨rfl, hUserP⟩ | ⟨rfl, hUserP⟩ <;>
    rcases hUser hq hGrain' with ⟨rfl, hUserQ⟩ | ⟨rfl, hUserQ⟩
  · exact hne rfl
  · exact hUsers (hUserP.symm.trans hUserQ)
  · exact hUsers (hUserQ.symm.trans hUserP)
  · exact hne rfl

/-- The copy of a report is counted again. -/
theorem grain_repeated :
    let copied := exampleBoth (exampleReport ['a']) (exampleReport ['a'])
    Processings exampleService
        [(exampleSource, exampleResult ['a']), (exampleCopy, exampleResult ['a'])] copied ∧
      ¬(copied.usageDailyTable.map grain).Nodup := by
  intro copied
  refine ⟨?_, by decide +kernel⟩
  exact exampleBoth_processings (Fallible.eq_ok_of_toOption (by decide))
    (Fallible.eq_ok_of_toOption (by decide +kernel))

end Example

end KiroIngest
