import KiroUsage.Ingest.Reference
import KiroUsage.Semantics.Tables

/-! The unpivot of the model columns: which pairs of a model and a count come
out of a row, and in which record of the result they are found. -/
namespace KiroIngest.ReportTransform

open Text Fallible Tables

section Pattern

theorem take_before_messagesSuffix (model : Str) : (model ++ messagesSuffix).take
    ((model ++ messagesSuffix).length - messagesSuffix.length) = model := by
  rw [List.length_append, Nat.add_sub_cancel, List.take_left]

theorem modelBeforeSuffix_eq_some_iff {column model : Str} :
    modelBeforeSuffix column = some model ↔
      model ≠ [] ∧ model.all isModelCharacter = true ∧ column = model ++ messagesSuffix := by
  unfold modelBeforeSuffix
  dsimp only
  constructor
  · intro h
    split_ifs at h with hColumn
    cases h
    exact ⟨hColumn.1, hColumn.2.2, hColumn.2.1⟩
  · rintro ⟨hNonempty, hAll, rfl⟩
    rw [take_before_messagesSuffix, if_pos ⟨hNonempty, rfl, hAll⟩]

theorem getLast?_append_messagesSuffix (model : Str) :
    (model ++ messagesSuffix).getLast? = some 's' := by
  rw [List.getLast?_append]
  rfl

/-- What the pattern accepts, and the model it gives: both anchors count, the
last one in either of its two places. -/
theorem modelColumnPattern_eq_some_iff {column model : Str} :
    modelColumnPattern column = some model ↔
      model ≠ [] ∧ model.all isModelCharacter = true ∧
        (column = model ++ messagesSuffix ∨ column = model ++ messagesSuffix ++ ['\n']) := by
  unfold modelColumnPattern
  split
  case h_1 hLast =>
    rw [modelBeforeSuffix_eq_some_iff]
    have hColumn : column = column.dropLast ++ ['\n'] := by
      rw [List.dropLast_append_getLast? _ hLast]
    have hOther : column ≠ model ++ messagesSuffix := by
      rintro rfl
      rw [getLast?_append_messagesSuffix] at hLast
      cases hLast
    constructor
    · rintro ⟨hNonempty, hAll, hBefore⟩
      exact ⟨hNonempty, hAll, Or.inr (hBefore ▸ hColumn)⟩
    · rintro ⟨hNonempty, hAll, hEither⟩
      have hBroken := hEither.resolve_left hOther
      exact ⟨hNonempty, hAll, by rw [hBroken, List.dropLast_concat]⟩
  case h_2 hLast =>
    rw [modelBeforeSuffix_eq_some_iff]
    have hOther : column ≠ model ++ messagesSuffix ++ ['\n'] := by
      rintro rfl
      exact hLast (by rw [List.getLast?_concat])
    simp only [hOther, or_false]

/-- The two columns that the pattern takes for a model. -/
theorem modelColumnPattern_plain {model : Str} (hNonempty : model ≠ [])
    (hAll : model.all isModelCharacter = true) :
    modelColumnPattern (model ++ messagesSuffix) = some model :=
  modelColumnPattern_eq_some_iff.mpr ⟨hNonempty, hAll, Or.inl rfl⟩

theorem modelColumnPattern_lineFeed {model : Str} (hNonempty : model ≠ [])
    (hAll : model.all isModelCharacter = true) :
    modelColumnPattern (model ++ messagesSuffix ++ ['\n']) = some model :=
  modelColumnPattern_eq_some_iff.mpr ⟨hNonempty, hAll, Or.inr rfl⟩

end Pattern

/-- The count in a cell, zero if there is none. -/
def cellCount (value : Str) : Int := (longTryParse value).getD 0

/-- The model of a column and the count of its cell, unless it is zero. -/
def emission (entry : Str × Str) : Option (Str × Int) :=
  match modelColumnPattern entry.1 with
  | some model => if cellCount entry.2 = 0 then none else some (model, cellCount entry.2)
  | none => none

/-- The pairs of a model and a count that a row gives, in header order. -/
def emissions (header row : List Str) : List (Str × Int) := (header.zip row).filterMap emission

theorem parseNonNegativeLong_eq_ok_iff {value column : Str} {count : Int} :
    parseNonNegativeLong value column = .ok count ↔ longTryParse value = some count ∧ 0 ≤ count := by
  unfold parseNonNegativeLong
  cases longTryParse value with
  | none => exact ⟨nofun, nofun⟩
  | some parsed =>
      dsimp only
      split_ifs with hNegative
      · refine ⟨nofun, fun h => ?_⟩
        cases h.1
        exact absurd h.2 (not_le.mpr hNegative)
      · rw [Except.ok.injEq, Option.some.injEq]
        refine ⟨fun h => ⟨h, h ▸ not_lt.mp hNegative⟩, fun h => h.1⟩

theorem cellCount_of_parse {value column : Str} {count : Int}
    (h : parseNonNegativeLong value column = .ok count) : cellCount value = count := by
  rw [cellCount, (parseNonNegativeLong_eq_ok_iff.mp h).1, Option.getD_some]

/-- A model cell that can be read. -/
def Readable (cell : Str × Str × Str) : Prop :=
  ∃ count, parseNonNegativeLong cell.2.2 cell.1 = .ok count

/-- The records of a row: every model cell can be read, and each nonzero one
gives a record. -/
theorem messages_iff {header row : List Str} {userId email : Str}
    {messages : List ModelMessageRecord} :
    (∃ counts, List.Forall₂ (fun cell count => parseNonNegativeLong cell.2.2 cell.1 = .ok count)
        (modelCells header row) counts ∧
      messages = nonZeroMessages userId email ((modelCells header row).zip counts)) ↔
      (∀ cell ∈ modelCells header row, Readable cell) ∧
        messages = (emissions header row).map fun pair => ⟨userId, email, pair.1, pair.2⟩ := by
  have hCounts (cell : Str × Str × Str) (count : Int)
      (h : parseNonNegativeLong cell.2.2 cell.1 = .ok count) : count = cellCount cell.2.2 :=
    (cellCount_of_parse h).symm
  have hReadable (cell : Str × Str × Str) : Readable cell ↔
      parseNonNegativeLong cell.2.2 cell.1 = .ok (cellCount cell.2.2) := by
    refine ⟨fun ⟨count, h⟩ => ?_, fun h => ⟨_, h⟩⟩
    rw [← hCounts cell count h]
    exact h
  have hRecords : nonZeroMessages userId email
      ((modelCells header row).zip ((modelCells header row).map fun cell => cellCount cell.2.2)) =
        (emissions header row).map fun pair => ⟨userId, email, pair.1, pair.2⟩ := by
    have hZip (cells : List (Str × Str × Str)) :
        cells.zip (cells.map fun cell => cellCount cell.2.2) =
          cells.map fun cell => (cell, cellCount cell.2.2) := by
      rw [← List.zip_map' (f := fun cell : Str × Str × Str => cell), List.map_id']
    rw [nonZeroMessages, hZip, List.filterMap_map, modelCells, List.filterMap_filterMap, emissions,
      List.map_filterMap]
    refine List.filterMap_congr fun entry _ => ?_
    unfold emission
    cases modelColumnPattern entry.1 with
    | none => rfl
    | some model =>
        simp only [Option.map_some, Option.bind_some, Function.comp]
        split_ifs <;> rfl
  constructor
  · rintro ⟨counts, hAll, rfl⟩
    obtain ⟨hCells, rfl⟩ := (forall₂_iff_map hCounts).mp hAll
    exact ⟨fun cell hCell => (hReadable cell).mpr (hCells cell hCell), hRecords⟩
  · rintro ⟨hAll, rfl⟩
    exact ⟨_,
      (forall₂_iff_map hCounts).mpr ⟨fun cell hCell => (hReadable cell).mp (hAll cell hCell), rfl⟩,
      hRecords.symm⟩

section Row

variable {header row : List Str}

/-- The cells of a row by the names of their columns. -/
theorem zip_eq_map_valueOf (hDistinct : header.Nodup) (hWidth : row.length = header.length) :
    header.zip row = header.map fun column => (column, valueOf header row column) := by
  apply List.ext_getElem
  · simp [hWidth]
  · intro i hLeft hRight
    have hColumn : i < header.length := by simpa using hRight
    have hCell : i < row.length := hWidth ▸ hColumn
    rw [List.getElem_zip, List.getElem_map, valueOf, hDistinct.idxOf_getElem i hColumn,
      List.getD_eq_getElem?_getD, List.getElem?_eq_getElem hCell, Option.getD_some]

theorem emissions_eq (hDistinct : header.Nodup) (hWidth : row.length = header.length) :
    emissions header row =
      header.filterMap fun column => emission (column, valueOf header row column) := by
  rw [emissions, zip_eq_map_valueOf hDistinct hWidth, List.filterMap_map]
  rfl

theorem emission_eq_some_iff {entry : Str × Str} {pair : Str × Int} :
    emission entry = some pair ↔
      modelColumnPattern entry.1 = some pair.1 ∧ cellCount entry.2 = pair.2 ∧ pair.2 ≠ 0 := by
  obtain ⟨model, count⟩ := pair
  unfold emission
  cases modelColumnPattern entry.1 with
  | none => exact ⟨nofun, nofun⟩
  | some found =>
      dsimp only
      split_ifs with hZero
      · exact ⟨nofun, fun ⟨_, hCount, hNonzero⟩ => absurd (hCount ▸ hZero) hNonzero⟩
      · rw [Option.some.injEq, Prod.mk.injEq, Option.some.injEq]
        exact ⟨fun h => ⟨h.1, h.2, h.2 ▸ hZero⟩, fun h => ⟨h.1, h.2.1⟩⟩

/-- Of two columns that the pattern takes for one model, at least one is zero. -/
def CountedOnce (header row : List Str) : Prop :=
  ∀ model : Str, model ≠ [] → model.all isModelCharacter = true → model ++ messagesSuffix ∈ header →
    model ++ messagesSuffix ++ ['\n'] ∈ header →
      cellCount (valueOf header row (model ++ messagesSuffix)) = 0 ∨
        cellCount (valueOf header row (model ++ messagesSuffix ++ ['\n'])) = 0

theorem emissions_models_nodup_iff (hDistinct : header.Nodup) (hWidth : row.length = header.length) :
    ((emissions header row).map Prod.fst).Nodup ↔ CountedOnce header row := by
  have hModel (column model : Str) :
      (emission (column, valueOf header row column)).map Prod.fst = some model ↔
        modelColumnPattern column = some model ∧ cellCount (valueOf header row column) ≠ 0 := by
    rw [Option.map_eq_some_iff]
    constructor
    · rintro ⟨pair, hPair, rfl⟩
      obtain ⟨hModel, hCount, hNonzero⟩ := emission_eq_some_iff.mp hPair
      exact ⟨hModel, hCount ▸ hNonzero⟩
    · rintro ⟨hModel, hNonzero⟩
      exact ⟨(model, _), emission_eq_some_iff.mpr ⟨hModel, rfl, hNonzero⟩, rfl⟩
  have hBroken (model : Str) : model ++ messagesSuffix ≠ model ++ messagesSuffix ++ ['\n'] := by
    simp
  rw [emissions_eq hDistinct hWidth, List.map_filterMap, nodup_filterMap_iff hDistinct]
  simp only [hModel]
  constructor
  · intro h model hNonempty hAll hPlain hLineFeed
    by_contra hNonzero
    rw [not_or] at hNonzero
    exact hBroken model (h _ hPlain _ hLineFeed model
      ⟨modelColumnPattern_plain hNonempty hAll, hNonzero.1⟩
      ⟨modelColumnPattern_lineFeed hNonempty hAll, hNonzero.2⟩)
  · rintro h a ha b hb model ⟨hLeft, hCount⟩ ⟨hRight, hCount'⟩
    obtain ⟨hNonempty, hAll, rfl | rfl⟩ := modelColumnPattern_eq_some_iff.mp hLeft
    · obtain ⟨_, _, rfl | rfl⟩ := modelColumnPattern_eq_some_iff.mp hRight
      · rfl
      · exact ((h model hNonempty hAll ha hb).elim hCount hCount').elim
    · obtain ⟨_, _, rfl | rfl⟩ := modelColumnPattern_eq_some_iff.mp hRight
      · exact ((h model hNonempty hAll hb ha).elim hCount' hCount).elim
      · rfl

end Row

section Grain

variable {header row : List Str} {targets : List TargetRow}

theorem Reads.messages_eq {platform : Platform} {target : TargetRow}
    (h : Reads platform header row target) :
    target.messages = (emissions header row).map fun pair =>
      ⟨target.usage.userId, target.usage.userEmail, pair.1, pair.2⟩ :=
  (messages_iff.mp h.messages).2

/-- The rows of one partition have different users. -/
theorem users_nodup_of_grains_nodup (h : (targets.map TargetRow.grain).Nodup) (path : Str × Str) :
    (targets.filter (·.path = path)).Pairwise fun t u => t.usage.userId ≠ u.usage.userId := by
  have hPairs : (targets.filter (·.path = path)).Pairwise fun t u => t.grain ≠ u.grain :=
    (List.pairwise_map.mp h).filter _
  refine hPairs.imp_of_mem fun {t u} ht hu hNe hUser => hNe ?_
  have hLeft : t.path = path := by simpa using (List.mem_filter.mp ht).2
  have hRight : u.path = path := by simpa using (List.mem_filter.mp hu).2
  have hDate : t.date = u.date := congrArg Prod.fst (hLeft.trans hRight.symm)
  have hType : t.clientType = u.clientType := congrArg Prod.snd (hLeft.trans hRight.symm)
  rw [TargetRow.grain, TargetRow.grain, hDate, hUser, hType]

def ModelMessageRecord.grain (m : ModelMessageRecord) : Str × Str := (m.userId, m.model)

/-- In a partition each user and model occur once if they do in each row. -/
theorem partitionOf_grains_nodup_iff (hGrains : (targets.map TargetRow.grain).Nodup)
    (hUsers : ∀ target ∈ targets, ∀ m ∈ target.messages, m.userId = target.usage.userId)
    (path : Str × Str) :
    ((partitionOf targets path).modelMessages.map ModelMessageRecord.grain).Nodup ↔
      ∀ target ∈ targets, target.path = path →
        (target.messages.map ModelMessageRecord.grain).Nodup := by
  unfold partitionOf
  dsimp only
  rw [List.map_flatMap, List.nodup_flatMap]
  simp only [List.mem_filter, decide_eq_true_eq]
  constructor
  · exact fun h target hTarget hPath => h.1 target ⟨hTarget, hPath⟩
  · intro h
    refine ⟨fun target hTarget => h target hTarget.1 hTarget.2, ?_⟩
    refine (users_nodup_of_grains_nodup hGrains path).imp_of_mem fun {t u} ht hu hNe => ?_
    intro grain hLeft hRight
    obtain ⟨m, hm, rfl⟩ := List.mem_map.mp hLeft
    obtain ⟨n, hn, hSame⟩ := List.mem_map.mp hRight
    have hUser : n.userId = m.userId := congrArg Prod.fst hSame
    rw [hUsers u (List.mem_filter.mp hu).1 n hn, hUsers t (List.mem_filter.mp ht).1 m hm] at hUser
    exact hNe hUser.symm

theorem users_of_reads {platform : Platform} {rows : List (List Str)}
    (h : List.Forall₂ (Reads platform header) rows targets) :
    ∀ target ∈ targets, ∀ m ∈ target.messages, m.userId = target.usage.userId := by
  induction h with
  | nil => nofun
  | cons hFirst _ ih =>
      refine List.forall_mem_cons.mpr ⟨fun m hm => ?_, ih⟩
      rw [hFirst.messages_eq] at hm
      obtain ⟨pair, _, rfl⟩ := List.mem_map.mp hm
      rfl

/-- The grain of the Model Message Fact: in an accepted report no user has two
records of one model in a partition if and only if no kept row counts for a
model twice. -/
theorem model_grain_iff {platform : Platform} {csvText : CsvText} {targetList : Str → Bool}
    {header : List Str} {rows : List (List Str)} {result : TransformResult}
    (hParse : Csv.parse csvText = .ok (header, rows))
    (hResult : transform platform csvText targetList = .ok result) :
    (∀ p ∈ result.partitions, (p.modelMessages.map fun m => (m.userId, m.model)).Nodup) ↔
      ∀ row ∈ rows, targetList (valueOf header row colUserEmail) = true → CountedOnce header row := by
  obtain ⟨hHeader, hRows, targets, hReads, hGrains, rfl⟩ :=
    (transform_eq_ok_iff hParse _ _).mp hResult
  have hUsers := users_of_reads hReads
  have hOnce : (∀ row ∈ rows.filter fun row => targetList (valueOf header row colUserEmail),
      CountedOnce header row) ↔
        ∀ target ∈ targets, (target.messages.map ModelMessageRecord.grain).Nodup := by
    refine forall_of_forall₂ hReads fun row hRow target h => ?_
    have hWidth := (hRows row (List.mem_filter.mp hRow).1).1
    rw [← emissions_models_nodup_iff hHeader.distinct hWidth, h.messages_eq, List.map_map]
    change _ ↔ ((emissions header row).map fun pair => (target.usage.userId, pair.1)).Nodup
    rw [← List.nodup_map_iff (Prod.mk_right_injective target.usage.userId), List.map_map]
    rfl
  have hPartitions : (∀ p ∈ partitionsOf targets,
      (p.modelMessages.map ModelMessageRecord.grain).Nodup) ↔
        ∀ target ∈ targets, (target.messages.map ModelMessageRecord.grain).Nodup := by
    simp only [partitionsOf, List.forall_mem_map, List.mem_eraseDups,
      partitionOf_grains_nodup_iff hGrains hUsers]
    exact ⟨fun h target hTarget => h target hTarget target hTarget rfl,
      fun h _ _ target hTarget _ => h target hTarget⟩
  change (∀ p ∈ partitionsOf targets, (p.modelMessages.map ModelMessageRecord.grain).Nodup) ↔ _
  rw [hPartitions, ← hOnce]
  simp only [List.mem_filter, and_imp]

end Grain

section Example

/-- A header with a model column twice, once with a line feed behind its name. -/
def twiceHeader : List Str := requiredColumns ++ ["auto_messages".toList, "auto_messages\n".toList]

def twiceRow : List Str := exampleRow ++ [['5']]

def twiceReport : CsvText where records := [some twiceHeader, some twiceRow]

/-- The same columns, and a count in the first of them only. -/
def onceRow : List Str := exampleRow ++ [['0']]

def onceReport : CsvText where records := [some twiceHeader, some onceRow]

theorem model_grain_iff_example : CountedOnce twiceHeader onceRow := by
  have hParse : Csv.parse onceReport = .ok (twiceHeader, [onceRow]) := eq_ok_of_toOption (by decide)
  have hAccepted : transform examplePlatform onceReport (· = ['a']) = .ok (exampleResult ['a']) :=
    eq_ok_of_toOption (by decide)
  refine (model_grain_iff hParse hAccepted).mp ?_ onceRow List.mem_cons_self (by decide)
  intro p hp
  rw [List.mem_singleton.mp hp]
  decide

/-- Both columns are taken for the model `auto`, and the report is accepted with
two records of one user and model. -/
theorem model_counted_twice :
    Csv.parse twiceReport = .ok (twiceHeader, [twiceRow]) ∧
      modelColumnPattern "auto_messages".toList = some "auto".toList ∧
      modelColumnPattern "auto_messages\n".toList = some "auto".toList ∧
      ∃ result, transform examplePlatform twiceReport (· = ['a']) = .ok result ∧
        ∃ p ∈ result.partitions, ¬(p.modelMessages.map fun m => (m.userId, m.model)).Nodup := by
  have hAccepted : transform examplePlatform twiceReport (· = ['a']) =
      .ok ⟨1, 1, [⟨"2026-06-20".toList, "KIRO_CLI".toList,
        [⟨['u'], ['a'], 1, 0, 0, 0, false, ['t'], 2, false, ['p']⟩],
        [⟨['u'], ['a'], "auto".toList, 3⟩, ⟨['u'], ['a'], "auto".toList, 5⟩]⟩]⟩ :=
    eq_ok_of_toOption (by decide)
  exact ⟨eq_ok_of_toOption (by decide), by decide, by decide, _, hAccepted, _,
    List.mem_cons_self, by decide⟩

end Example

end KiroIngest.ReportTransform
