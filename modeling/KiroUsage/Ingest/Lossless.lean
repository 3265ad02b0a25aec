import KiroUsage.Ingest.Unpivot

/-! Whether the unpivot loses messages: the pairs that the result has for a row
against those that the names and cells of its messages columns declare. -/
namespace KiroIngest.ReportTransform

open Text Fallible Tables

section Emitted

variable {header row : List Str} {targets : List TargetRow}

/-- The pairs of a model and a count that a result has for a user, in the
partition of a date and client type. -/
def emitted (result : TransformResult) (date clientType userId : Str) : List (Str × Int) :=
  (result.partitions.filter (·.path = (date, clientType))).flatMap fun p =>
    (p.modelMessages.filter (·.userId = userId)).map fun m => (m.model, m.messages)

/-- The records of a row are found again under its grain. -/
theorem emitted_reference {platform : Platform} {target : TargetRow} (rows : List (List Str))
    (hGrains : (targets.map TargetRow.grain).Nodup)
    (hUsers : ∀ target ∈ targets, ∀ m ∈ target.messages, m.userId = target.usage.userId)
    (hTarget : target ∈ targets) (hReads : Reads platform header row target) :
    emitted (reference rows targets) target.date target.clientType target.usage.userId =
      emissions header row := by
  have hPartition : (partitionsOf targets).filter (·.path = target.path) =
      [partitionOf targets target.path] := by
    have hKey : target.path ∈ (targets.map TargetRow.path).eraseDups :=
      List.mem_eraseDups.mpr (List.mem_map.mpr ⟨target, hTarget, rfl⟩)
    have hOnce : ((targets.map TargetRow.path).eraseDups).filter (· = target.path) =
        [target.path] := by
      rw [List.filter_eq, List.count_eq_one_of_mem (Storage.nodup_eraseDups _) hKey]
      rfl
    rw [partitionsOf, List.filter_map, ← List.map_singleton, ← hOnce]
    rfl
  have hFilter (other : TargetRow) (hOther : other ∈ targets) :
      other.messages.filter (·.userId = target.usage.userId) =
        if other.usage.userId = target.usage.userId then other.messages else [] := by
    split_ifs with hSame
    · rw [List.filter_eq_self]
      exact fun m hm => by simp [hUsers other hOther m hm, hSame]
    · rw [List.filter_eq_nil_iff]
      exact fun m hm => by simp [hUsers other hOther m hm, hSame]
  have hRow : target ∈ targets.filter (·.path = target.path) :=
    List.mem_filter.mpr ⟨hTarget, by simp⟩
  have hMessages : (partitionOf targets target.path).modelMessages.filter
      (·.userId = target.usage.userId) = target.messages := by
    rw [partitionOf, List.filter_flatMap]
    rw [flatMap_eq_of_unique (users_nodup_of_grains_nodup hGrains target.path) hRow,
      hFilter _ hTarget, if_pos rfl]
    intro other hOther hNe
    rw [hFilter other (List.mem_filter.mp hOther).1, if_neg hNe]
  have hPairs : target.messages.map (fun m => (m.model, m.messages)) = emissions header row := by
    rw [hReads.messages_eq, List.map_map]
    exact List.map_id' _
  unfold emitted
  change (((partitionsOf targets).filter (·.path = target.path)).flatMap _) = _
  rw [hPartition, List.flatMap_singleton, hMessages, hPairs]

end Emitted

def isLineBreak (c : Char) : Bool := [0xA, 0xB, 0xC, 0xD, 0x85, 0x2028, 0x2029].contains c.toNat

/-- A model name is not empty and has no upper-case letter and no line break. -/
def isModelName (isUpper : Char → Bool) (model : Str) : Bool :=
  model ≠ [] && model.all fun c => !isUpper c && !isLineBreak c

/-- The columns that count the messages of a model, by their names alone. -/
def isMessagesColumn (isUpper : Char → Bool) (column : Str) : Bool :=
  let model := column.take (column.length - messagesSuffix.length)
  isModelName isUpper model && column = model ++ messagesSuffix

/-- The pairs that a row should give: the cell in the column of the model is a
positive integer. -/
def Declared (isUpper : Char → Bool) (header row : List Str) (pair : Str × Int) : Prop :=
  isModelName isUpper pair.1 = true ∧ pair.1 ++ messagesSuffix ∈ header ∧
    longTryParse (valueOf header row (pair.1 ++ messagesSuffix)) = some pair.2 ∧ 0 < pair.2

section Names

variable {isUpper : Char → Bool}

theorem isMessagesColumn_iff {column : Str} : isMessagesColumn isUpper column = true ↔
    ∃ model, isModelName isUpper model = true ∧ column = model ++ messagesSuffix := by
  unfold isMessagesColumn
  rw [Bool.and_eq_true, decide_eq_true_eq]
  constructor
  · exact fun h => ⟨_, h⟩
  · rintro ⟨model, hName, rfl⟩
    rw [take_before_messagesSuffix]
    exact ⟨hName, rfl⟩

/-- The characters of the pattern have codes in two intervals. -/
theorem isModelCharacter_range {c : Char} (h : isModelCharacter c = true) :
    (46 ≤ c.toNat ∧ c.toNat ≤ 57) ∨ (95 ≤ c.toNat ∧ c.toNat ≤ 122) := by
  simp only [isModelCharacter, Bool.or_eq_true, Bool.and_eq_true, decide_eq_true_eq, beq_iff_eq] at h
  rcases h with ((⟨hLow, hHigh⟩ | ⟨hLow, hHigh⟩) | rfl) | rfl
  · have hLow : 97 ≤ c.toNat := hLow
    have hHigh : c.toNat ≤ 122 := hHigh
    omega
  · have hLow : 48 ≤ c.toNat := hLow
    have hHigh : c.toNat ≤ 57 := hHigh
    omega
  · decide
  · decide

theorem not_lineBreak {c : Char} (h : isModelCharacter c = true) : isLineBreak c = false := by
  have hRange := isModelCharacter_range h
  by_contra hBreak
  simp only [isLineBreak, Bool.not_eq_false, List.contains_iff_mem, List.mem_cons,
    List.not_mem_nil, or_false] at hBreak
  omega

/-- Every name that the pattern accepts is a model name. -/
theorem isModelName_of_characters (hUpper : ∀ c, isModelCharacter c = true → isUpper c = false)
    {model : Str} (hNonempty : model ≠ []) (hAll : model.all isModelCharacter = true) :
    isModelName isUpper model = true := by
  rw [isModelName, Bool.and_eq_true, decide_eq_true_eq, List.all_eq_true]
  refine ⟨hNonempty, fun c hc => ?_⟩
  have hCharacter := List.all_eq_true.mp hAll c hc
  simp [hUpper c hCharacter, not_lineBreak hCharacter]

theorem ne_nil_of_isModelName {model : Str} (h : isModelName isUpper model = true) : model ≠ [] := by
  rw [isModelName, Bool.and_eq_true, decide_eq_true_eq] at h
  exact h.1

end Names

section Row

variable {header row : List Str} {isUpper : Char → Bool}

theorem mem_emissions (hDistinct : header.Nodup) (hWidth : row.length = header.length)
    {pair : Str × Int} : pair ∈ emissions header row ↔
      ∃ column ∈ header, modelColumnPattern column = some pair.1 ∧
        cellCount (valueOf header row column) = pair.2 ∧ pair.2 ≠ 0 := by
  rw [emissions_eq hDistinct hWidth, List.mem_filterMap]
  simp only [emission_eq_some_iff]

theorem longTryParse_of_count {value : Str} (h : cellCount value ≠ 0) :
    longTryParse value = some (cellCount value) := by
  unfold cellCount at h ⊢
  cases hParse : longTryParse value with
  | none => simp [hParse] at h
  | some count => rfl

theorem readable_nonneg (hDistinct : header.Nodup) (hWidth : row.length = header.length)
    (hReadable : ∀ cell ∈ modelCells header row, Readable cell) {column model : Str}
    (hColumn : column ∈ header) (hModel : modelColumnPattern column = some model) :
    0 ≤ cellCount (valueOf header row column) := by
  have hCell : (column, model, valueOf header row column) ∈ modelCells header row := by
    rw [modelCells, zip_eq_map_valueOf hDistinct hWidth, List.mem_filterMap]
    exact ⟨_, List.mem_map.mpr ⟨column, hColumn, rfl⟩, by rw [hModel]; rfl⟩
  obtain ⟨count, hCount⟩ := hReadable _ hCell
  rw [cellCount_of_parse hCount]
  exact (parseNonNegativeLong_eq_ok_iff.mp hCount).2

/-- The model columns whose names end in a line feed are zero. -/
def BrokenColumnsZero (header row : List Str) : Prop :=
  ∀ model : Str, model ≠ [] → model.all isModelCharacter = true →
    model ++ messagesSuffix ++ ['\n'] ∈ header →
      cellCount (valueOf header row (model ++ messagesSuffix ++ ['\n'])) = 0

/-- The messages columns whose names the pattern misses are not positive. -/
def MissedColumnsIdle (isUpper : Char → Bool) (header row : List Str) : Prop :=
  ∀ model, isModelName isUpper model = true → model ++ messagesSuffix ∈ header →
    model.all isModelCharacter = false →
      cellCount (valueOf header row (model ++ messagesSuffix)) ≤ 0

/-- Each declared pair once, and no other. -/
def Exact (isUpper : Char → Bool) (header row : List Str) (pairs : List (Str × Int)) : Prop :=
  pairs.Nodup ∧ ∀ pair, pair ∈ pairs ↔ Declared isUpper header row pair

theorem cellCount_of_longTryParse {value : Str} {count : Int} (h : longTryParse value = some count) :
    cellCount value = count := by
  rw [cellCount, h, Option.getD_some]

/-- If what a row gives is exact, no missed column is positive: the declared pair
would have no column that the pattern accepts. -/
theorem Exact.missedColumnsIdle (hDistinct : header.Nodup) (hWidth : row.length = header.length)
    (h : Exact isUpper header row (emissions header row)) : MissedColumnsIdle isUpper header row := by
  intro model hName hColumn hMissed
  by_contra hNot
  have hPositive := not_le.mp hNot
  have hDeclared : Declared isUpper header row (model, _) :=
    ⟨hName, hColumn, longTryParse_of_count hPositive.ne', hPositive⟩
  obtain ⟨_, _, hModel, _⟩ := (mem_emissions hDistinct hWidth).mp ((h.2 _).mpr hDeclared)
  rw [(modelColumnPattern_eq_some_iff.mp hModel).2.1] at hMissed
  cases hMissed

/-- Nor is a column counted that has a line feed: its pair would be declared by the
column without the line feed as well. -/
theorem Exact.brokenColumnsZero (hDistinct : header.Nodup) (hWidth : row.length = header.length)
    (h : Exact isUpper header row (emissions header row)) : BrokenColumnsZero header row := by
  obtain ⟨hNodup, hExact⟩ := h
  intro model hNonempty hAll hColumn
  by_contra hNonzero
  have hMem : (model, _) ∈ emissions header row :=
    (mem_emissions hDistinct hWidth).mpr
      ⟨_, hColumn, modelColumnPattern_lineFeed hNonempty hAll, rfl, hNonzero⟩
  obtain ⟨_, hPlainColumn, hCell, hPositive⟩ := (hExact _).mp hMem
  rw [emissions_eq hDistinct hWidth, nodup_filterMap_iff hDistinct] at hNodup
  have hSame := hNodup _ hPlainColumn _ hColumn (model, _)
    (emission_eq_some_iff.mpr ⟨modelColumnPattern_plain hNonempty hAll,
      cellCount_of_longTryParse hCell, hPositive.ne'⟩)
    (emission_eq_some_iff.mpr ⟨modelColumnPattern_lineFeed hNonempty hAll, rfl, hNonzero⟩)
  simp at hSame

/-- Where the columns with a line feed are zero, a pair comes from the column that
is named after its model. -/
theorem BrokenColumnsZero.column_eq (h : BrokenColumnsZero header row) {column : Str}
    {pair : Str × Int} (hColumn : column ∈ header)
    (hEmission : emission (column, valueOf header row column) = some pair) :
    column = pair.1 ++ messagesSuffix := by
  obtain ⟨hModel, hCell, hNonzero⟩ := emission_eq_some_iff.mp hEmission
  obtain ⟨hNonempty, hAll, hEither⟩ := modelColumnPattern_eq_some_iff.mp hModel
  refine hEither.resolve_right ?_
  rintro rfl
  exact hNonzero (hCell ▸ h pair.1 hNonempty hAll hColumn)

theorem exact_emissions (hUpper : ∀ c, isModelCharacter c = true → isUpper c = false)
    (hDistinct : header.Nodup) (hWidth : row.length = header.length)
    (hReadable : ∀ cell ∈ modelCells header row, Readable cell)
    (hMissed : MissedColumnsIdle isUpper header row) (hZero : BrokenColumnsZero header row) :
    Exact isUpper header row (emissions header row) := by
  constructor
  · rw [emissions_eq hDistinct hWidth, nodup_filterMap_iff hDistinct]
    intro a ha b hb pair hLeft hRight
    exact (hZero.column_eq ha hLeft).trans (hZero.column_eq hb hRight).symm
  intro pair
  rw [mem_emissions hDistinct hWidth]
  constructor
  · rintro ⟨column, hColumn, hModel, hCell, hNonzero⟩
    obtain ⟨hNonempty, hAll, _⟩ := modelColumnPattern_eq_some_iff.mp hModel
    have hAtLeast := readable_nonneg hDistinct hWidth hReadable hColumn hModel
    obtain rfl := hZero.column_eq hColumn (emission_eq_some_iff.mpr ⟨hModel, hCell, hNonzero⟩)
    refine ⟨isModelName_of_characters hUpper hNonempty hAll, hColumn, ?_, by omega⟩
    rw [longTryParse_of_count (by omega), hCell]
  · rintro ⟨hName, hColumn, hCell, hPositive⟩
    have hCount := cellCount_of_longTryParse hCell
    refine ⟨_, hColumn, modelColumnPattern_plain (ne_nil_of_isModelName hName) ?_, hCount,
      hPositive.ne'⟩
    by_contra hOther
    have hLe := hMissed pair.1 hName hColumn ((Bool.not_eq_true _).mp hOther)
    omega

/-- A row gives exactly its declared pairs if and only if no column is positive
that the pattern misses, and none is that it takes although its name is broken. -/
theorem emissions_exact_iff (hUpper : ∀ c, isModelCharacter c = true → isUpper c = false)
    (hDistinct : header.Nodup) (hWidth : row.length = header.length)
    (hReadable : ∀ cell ∈ modelCells header row, Readable cell) :
    Exact isUpper header row (emissions header row) ↔
      MissedColumnsIdle isUpper header row ∧ BrokenColumnsZero header row := by
  constructor
  · intro h
    exact ⟨h.missedColumnsIdle hDistinct hWidth, h.brokenColumnsZero hDistinct hWidth⟩
  · rintro ⟨hMissed, hZero⟩
    exact exact_emissions hUpper hDistinct hWidth hReadable hMissed hZero

end Row

/-- What a row gives is exact, and its sum is that of the messages columns. -/
def Lossless (isUpper : Char → Bool) (header row : List Str) (pairs : List (Str × Int)) : Prop :=
  Exact isUpper header row pairs ∧
    (pairs.map Prod.snd).sum = ((header.filter (isMessagesColumn isUpper)).map fun column =>
      cellCount (valueOf header row column)).sum

/-- Every messages column has a name that the pattern accepts. -/
def NamesAccepted (isUpper : Char → Bool) (header : List Str) : Prop :=
  ∀ model, isModelName isUpper model = true → model ++ messagesSuffix ∈ header →
    model.all isModelCharacter = true

theorem namesAccepted_iff {isUpper : Char → Bool} {header : List Str} :
    NamesAccepted isUpper header ↔ ∀ column ∈ header, isMessagesColumn isUpper column = true →
      (modelColumnPattern column).isSome = true := by
  constructor
  · rintro h column hColumn hMessages
    obtain ⟨model, hName, rfl⟩ := isMessagesColumn_iff.mp hMessages
    rw [modelColumnPattern_plain (ne_nil_of_isModelName hName) (h model hName hColumn)]
    rfl
  · intro h model hName hColumn
    obtain ⟨found, hFound⟩ := Option.isSome_iff_exists.mp
      (h _ hColumn (isMessagesColumn_iff.mpr ⟨model, hName, rfl⟩))
    obtain ⟨_, hAll, hSame | hBroken⟩ := modelColumnPattern_eq_some_iff.mp hFound
    · rwa [List.append_cancel_right hSame]
    · have hLast := congrArg List.getLast? hBroken
      rw [getLast?_append_messagesSuffix, List.getLast?_concat] at hLast
      cases hLast

theorem emissions_sum {isUpper : Char → Bool} {header row : List Str}
    (hUpper : ∀ c, isModelCharacter c = true → isUpper c = false) (hDistinct : header.Nodup)
    (hWidth : row.length = header.length) (hNames : NamesAccepted isUpper header)
    (hZero : BrokenColumnsZero header row) :
    ((emissions header row).map Prod.snd).sum =
      ((header.filter (isMessagesColumn isUpper)).map fun column =>
        cellCount (valueOf header row column)).sum := by
  rw [emissions_eq hDistinct hWidth]
  refine sum_filterMap_eq fun column hColumn => ?_
  have hCounted (model : Str) (hModel : modelColumnPattern column = some model) :
      ((emission (column, valueOf header row column)).map Prod.snd).getD 0 =
        cellCount (valueOf header row column) := by
    unfold emission
    rw [hModel]
    dsimp only
    split_ifs with h
    · exact h.symm
    · rfl
  split_ifs with hMessages
  · obtain ⟨model, hModel⟩ :=
      Option.isSome_iff_exists.mp (namesAccepted_iff.mp hNames column hColumn hMessages)
    exact hCounted model hModel
  · cases hModel : modelColumnPattern column with
    | none =>
        unfold emission
        rw [hModel]
        rfl
    | some model =>
        obtain ⟨hNonempty, hAll, rfl | rfl⟩ := modelColumnPattern_eq_some_iff.mp hModel
        · exact absurd (isMessagesColumn_iff.mpr
            ⟨model, isModelName_of_characters hUpper hNonempty hAll, rfl⟩) hMessages
        · rw [hCounted model hModel]
          exact hZero model hNonempty hAll hColumn

/-- The pairs that an accepted result has for a row. -/
def emittedFor (result : TransformResult) (header row : List Str) (date : Str) : List (Str × Int) :=
  emitted result date (valueOf header row colClientType) (valueOf header row colUserId)

/-- The unpivot loses nothing. The pairs of all kept rows of an accepted report
are exact if and only if no kept row is positive in a messages column that the
pattern misses or in a column that it takes in spite of a line feed. And they
are exact, add up and leave no messages column aside if and only if the names of
the messages columns have only the characters of the pattern, and no kept row is
positive in a column with a line feed. -/
theorem unpivot_lossless_iff {isUpper : Char → Bool}
    (hUpper : ∀ c, isModelCharacter c = true → isUpper c = false) {platform : Platform}
    {csvText : CsvText} {targetList : Str → Bool} {header : List Str} {rows : List (List Str)}
    {result : TransformResult} (hParse : Csv.parse csvText = .ok (header, rows))
    (hResult : transform platform csvText targetList = .ok result) :
    ((∀ row ∈ rows, targetList (valueOf header row colUserEmail) = true →
        ∀ date, parseDate (valueOf header row colDate) = .ok date →
          Exact isUpper header row (emittedFor result header row date)) ↔
      ∀ row ∈ rows, targetList (valueOf header row colUserEmail) = true →
        MissedColumnsIdle isUpper header row ∧ BrokenColumnsZero header row) ∧
    (((∀ row ∈ rows, targetList (valueOf header row colUserEmail) = true →
          ∀ date, parseDate (valueOf header row colDate) = .ok date →
            Lossless isUpper header row (emittedFor result header row date)) ∧
        ∀ column ∈ header, isMessagesColumn isUpper column = true →
          (modelColumnPattern column).isSome = true) ↔
      NamesAccepted isUpper header ∧
        ∀ row ∈ rows, targetList (valueOf header row colUserEmail) = true →
          BrokenColumnsZero header row) := by
  obtain ⟨hHeader, hRows, targets, hReads, hGrains, rfl⟩ :=
    (transform_eq_ok_iff hParse _ _).mp hResult
  have hRow (row : List Str) (hRow : row ∈ rows)
      (hKept : targetList (valueOf header row colUserEmail) = true) :
      ∃ date, parseDate (valueOf header row colDate) = .ok date ∧
        emittedFor (reference rows targets) header row date = emissions header row ∧
        (Exact isUpper header row (emissions header row) ↔
          MissedColumnsIdle isUpper header row ∧ BrokenColumnsZero header row) := by
    obtain ⟨target, hTarget, hRead⟩ :=
      exists_of_forall₂ hReads (List.mem_filter.mpr ⟨hRow, hKept⟩)
    refine ⟨target.date, hRead.date, ?_, emissions_exact_iff hUpper hHeader.distinct
      (hRows row hRow).1 (messages_iff.mp hRead.messages).1⟩
    rw [emittedFor, ← (parseClientType_eq_ok_iff.mp hRead.clientType).2, ← hRead.userId]
    exact emitted_reference rows hGrains (users_of_reads hReads) hTarget hRead
  have hExact : (∀ row ∈ rows, targetList (valueOf header row colUserEmail) = true →
      ∀ date, parseDate (valueOf header row colDate) = .ok date →
        Exact isUpper header row (emittedFor (reference rows targets) header row date)) ↔
      ∀ row ∈ rows, targetList (valueOf header row colUserEmail) = true →
        MissedColumnsIdle isUpper header row ∧ BrokenColumnsZero header row := by
    refine forall_congr' fun row => forall_congr' fun hMem => forall_congr' fun hKept => ?_
    obtain ⟨date, hDate, hEmitted, hIff⟩ := hRow row hMem hKept
    rw [← hIff, ← hEmitted]
    refine ⟨fun h => h date hDate, fun h other hOther => ?_⟩
    rw [hDate] at hOther
    cases hOther
    exact h
  refine ⟨hExact, ?_⟩
  rw [← namesAccepted_iff]
  constructor
  · rintro ⟨hLossless, hNames⟩
    have hIdle := hExact.mp fun row hMem hKept date hDate => (hLossless row hMem hKept date hDate).1
    exact ⟨hNames, fun row hMem hKept => (hIdle row hMem hKept).2⟩
  · rintro ⟨hNames, hZero⟩
    have hIdle : ∀ row ∈ rows, targetList (valueOf header row colUserEmail) = true →
        MissedColumnsIdle isUpper header row ∧ BrokenColumnsZero header row := by
      refine fun row hMem hKept => ⟨fun model hName hColumn hMissed => ?_, hZero row hMem hKept⟩
      rw [hNames model hName hColumn] at hMissed
      cases hMissed
    refine ⟨fun row hMem hKept date hDate => ⟨hExact.mpr hIdle row hMem hKept date hDate, ?_⟩, hNames⟩
    obtain ⟨_, hDate', hEmitted, _⟩ := hRow row hMem hKept
    rw [hDate'] at hDate
    cases hDate
    rw [hEmitted]
    exact emissions_sum hUpper hHeader.distinct (hRows row hMem).1 hNames (hZero row hMem hKept)

section Example

/-- A report whose model has a hyphen in its name. -/
def hyphenHeader : List Str := requiredColumns ++ ["claude-sonnet_messages".toList]

def hyphenReport : CsvText where records := [some hyphenHeader, some exampleRow]

theorem not_isUpper_of_isModelCharacter (c : Char) (h : isModelCharacter c = true) :
    c.isUpper = false := by
  have hRange := isModelCharacter_range h
  by_contra hUpper
  have hBounds : 65 ≤ c.toNat ∧ c.toNat ≤ 90 :=
    of_decide_eq_true (Bool.eq_true_of_not_eq_false hUpper)
  omega

/-- The only row of the example gives its one declared pair. -/
theorem unpivot_lossless_iff_example :
    Lossless Char.isUpper exampleHeader exampleRow
      (emittedFor (exampleResult ['a']) exampleHeader exampleRow
        "2026-06-20".toList) := by
  have hDate : parseDate (valueOf exampleHeader exampleRow colDate) =
      .ok "2026-06-20".toList := eq_ok_of_toOption (by decide)
  refine ((unpivot_lossless_iff not_isUpper_of_isModelCharacter exampleReport_parses
    exampleReport_accepted).2.mpr ⟨?_, ?_⟩).1 exampleRow List.mem_cons_self (by decide) _ hDate
  · refine namesAccepted_iff.mpr fun column hColumn hMessages => ?_
    have hAll : exampleHeader.all (fun column =>
        !isMessagesColumn Char.isUpper column || (modelColumnPattern column).isSome) = true := by
      decide
    have hEither := List.all_eq_true.mp hAll column hColumn
    rw [hMessages] at hEither
    exact hEither
  · intro row hRow _ model _ _ hColumn
    have hAll : exampleHeader.all (fun column =>
        column.getLast? ≠ some '\n') = true := by decide
    have hLast := List.all_eq_true.mp hAll _ hColumn
    rw [decide_eq_true_eq, List.getLast?_concat] at hLast
    exact absurd rfl hLast

/-- The messages of a model with a hyphen in its name are lost without an error. -/
theorem hyphen_messages_lost :
    Csv.parse hyphenReport = .ok (hyphenHeader, [exampleRow]) ∧
      (∃ result, transform examplePlatform hyphenReport (· = ['a']) = .ok result ∧
        emittedFor result hyphenHeader exampleRow "2026-06-20".toList = []) ∧
      Declared Char.isUpper hyphenHeader exampleRow ("claude-sonnet".toList, 3) := by
  have hAccepted : transform examplePlatform hyphenReport (· = ['a']) =
      .ok ⟨1, 1, [⟨"2026-06-20".toList, "KIRO_CLI".toList,
        [⟨['u'], ['a'], 1, 0, 0, 0, false, ['t'], 2, false, ['p']⟩], []⟩]⟩ :=
    eq_ok_of_toOption (by decide)
  exact ⟨eq_ok_of_toOption (by decide), ⟨_, hAccepted, by decide⟩,
    by decide, by decide, by decide, by decide⟩

end Example

end KiroIngest.ReportTransform
