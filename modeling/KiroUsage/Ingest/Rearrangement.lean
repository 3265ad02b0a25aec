import KiroUsage.Ingest.Unpivot
import Mathlib.Data.List.Perm.Basic

/-! Row and column order do not matter. Two reports with the same cells under
the same column names, in any order, are both refused or have the same facts up
to order. -/
namespace KiroIngest.ReportTransform

open Text Fallible Tables

/-- Two rows that have the same cell under every column name. -/
structure SameCells (header header' row row' : List Str) : Prop where
  width : row.length = header.length
  width' : row'.length = header'.length
  cells : ∀ column ∈ header, valueOf header row column = valueOf header' row' column

/-- Two target rows with the same contents, the records of the models in any order. -/
structure SameTarget (target target' : TargetRow) : Prop where
  date : target.date = target'.date
  clientType : target.clientType = target'.clientType
  usage : target.usage = target'.usage
  messages : target.messages.Perm target'.messages

/-- Two results with the same facts up to order. -/
structure Alike (result result' : TransformResult) : Prop where
  rowsRead : result.rowsRead = result'.rowsRead
  rowsKept : result.rowsKept = result'.rowsKept
  paths : (result.partitions.map FactPartition.path).Perm (result'.partitions.map FactPartition.path)
  records : ∀ p ∈ result.partitions, ∀ p' ∈ result'.partitions, p.path = p'.path →
    p.usageDaily.Perm p'.usageDaily ∧ p.modelMessages.Perm p'.modelMessages

section Columns

variable {header header' row row' : List Str}

theorem SameCells.symm (h : SameCells header header' row row') (hColumns : header.Perm header') :
    SameCells header' header row' row :=
  ⟨h.width', h.width, fun column hColumn => (h.cells column (hColumns.mem_iff.mpr hColumn)).symm⟩

theorem HeaderAccepted.perm (h : HeaderAccepted header) (hColumns : header.Perm header') :
    HeaderAccepted header' where
  not_empty := fun hEmpty => h.not_empty (List.perm_nil.mp (hEmpty ▸ hColumns))
  present := fun column hColumn => h.present column (hColumns.mem_iff.mpr hColumn)
  distinct := hColumns.nodup_iff.mp h.distinct
  complete := fun column hColumn => hColumns.mem_iff.mp (h.complete column hColumn)

theorem mem_modelCells (hDistinct : header.Nodup) (hWidth : row.length = header.length)
    {entry : Str × Str × Str} : entry ∈ modelCells header row ↔
      entry.1 ∈ header ∧ modelColumnPattern entry.1 = some entry.2.1 ∧
        entry.2.2 = valueOf header row entry.1 := by
  rw [modelCells, zip_eq_map_valueOf hDistinct hWidth, List.filterMap_map, List.mem_filterMap]
  simp only [Function.comp, Option.map_eq_some_iff]
  constructor
  · rintro ⟨column, hColumn, model, hModel, rfl⟩
    exact ⟨hColumn, hModel, rfl⟩
  · rintro ⟨hColumn, hModel, hCell⟩
    exact ⟨entry.1, hColumn, entry.2.1, hModel, by rw [← hCell]⟩

theorem SameCells.emissions_perm (h : SameCells header header' row row')
    (hColumns : header.Perm header') (hDistinct : header.Nodup) :
    (emissions header row).Perm (emissions header' row') := by
  rw [emissions_eq hDistinct h.width, emissions_eq (hColumns.nodup_iff.mp hDistinct) h.width',
    List.filterMap_congr fun column hColumn => by rw [h.cells column hColumn]]
  exact hColumns.filterMap _

/-- A row with the same cells reads as the same target row. -/
theorem SameCells.reads {platform : Platform} {target : TargetRow}
    (h : SameCells header header' row row') (hColumns : header.Perm header')
    (hHeader : HeaderAccepted header) (hReads : Reads platform header row target) :
    ∃ target', Reads platform header' row' target' ∧ SameTarget target target' := by
  have hCell {column : Str} (hColumn : column ∈ requiredColumns) :
      valueOf header' row' column = valueOf header row column :=
    (h.cells column (hHeader.complete column hColumn)).symm
  have hDistinct' := hColumns.nodup_iff.mp hHeader.distinct
  have hReadable : ∀ cell ∈ modelCells header' row', Readable cell := by
    intro cell hMem
    obtain ⟨hColumn, hModel, hValue⟩ := (mem_modelCells hDistinct' h.width').mp hMem
    have hColumn' := hColumns.mem_iff.mpr hColumn
    refine (messages_iff.mp hReads.messages).1 cell ((mem_modelCells hHeader.distinct h.width).mpr ?_)
    exact ⟨hColumn', hModel, hValue.trans (h.cells cell.1 hColumn').symm⟩
  refine ⟨{ target with messages := (emissions header' row').map fun pair =>
    ⟨target.usage.userId, target.usage.userEmail, pair.1, pair.2⟩ }, ?_, rfl, rfl, rfl, ?_⟩
  · constructor
    case messages => exact messages_iff.mpr ⟨hReadable, rfl⟩
    all_goals rw [hCell (by simp [requiredColumns])]
    case date => exact hReads.date
    case clientType => exact hReads.clientType
    case userId_present => exact hReads.userId_present
    case userId => exact hReads.userId
    case userEmail => exact hReads.userEmail
    case chatConversations => exact hReads.chatConversations
    case creditsUsed => exact hReads.creditsUsed
    case overageCap => exact hReads.overageCap
    case overageCreditsUsed => exact hReads.overageCreditsUsed
    case overageEnabled => exact hReads.overageEnabled
    case subscriptionTier_present => exact hReads.subscriptionTier_present
    case subscriptionTier => exact hReads.subscriptionTier
    case totalMessages => exact hReads.totalMessages
    case newUser => exact hReads.newUser
    case profileId_present => exact hReads.profileId_present
    case profileId => exact hReads.profileId
  · rw [hReads.messages_eq]
    exact (h.emissions_perm hColumns hHeader.distinct).map _

end Columns

section Grouping

variable {targets targets' : List TargetRow}

theorem SameTarget.path {target target' : TargetRow} (h : SameTarget target target') :
    target.path = target'.path := Prod.ext h.date h.clientType

theorem SameTarget.grain {target target' : TargetRow} (h : SameTarget target target') :
    target.grain = target'.grain := by
  rw [TargetRow.grain, TargetRow.grain, h.date, h.usage, h.clientType]

/-- The rows of one partition keep their order or their contents. -/
theorem filter_path_related (h : List.Forall₂ SameTarget targets targets') (path : Str × Str) :
    List.Forall₂ SameTarget (targets.filter (·.path = path)) (targets'.filter (·.path = path)) :=
  filter_of_forall₂ h fun _ _ hSame => by rw [hSame.path]

/-- Grouping rearranged target rows gives the same facts up to order. -/
theorem reference_alike {rows rows' : List (List Str)} {middle : List TargetRow}
    (hRows : rows.length = rows'.length) (hOrder : middle.Perm targets)
    (hSame : List.Forall₂ SameTarget middle targets') :
    Alike (reference rows targets) (reference rows' targets') := by
  have hPaths : (targets.map TargetRow.path).Perm (targets'.map TargetRow.path) := by
    rw [← map_eq_of_forall₂ hSame fun _ _ h => h.path]
    exact (hOrder.map _).symm
  refine ⟨hRows, hOrder.length_eq.symm.trans hSame.length_eq, ?_, ?_⟩
  · have hKeys (targets : List TargetRow) :
        (partitionsOf targets).map FactPartition.path = (targets.map TargetRow.path).eraseDups := by
      rw [partitionsOf, List.map_map]
      exact List.map_id' _
    change ((partitionsOf targets).map _).Perm ((partitionsOf targets').map _)
    rw [hKeys, hKeys,
      List.perm_ext_iff_of_nodup (Storage.nodup_eraseDups _) (Storage.nodup_eraseDups _)]
    intro path
    rw [List.mem_eraseDups, List.mem_eraseDups, hPaths.mem_iff]
  · intro p hp p' hp' hPath
    obtain ⟨path, _, rfl⟩ := List.mem_map.mp hp
    obtain ⟨path', _, rfl⟩ := List.mem_map.mp hp'
    obtain rfl : path = path' := hPath
    have hFiltered := hOrder.filter (·.path = path)
    have hRelated := filter_path_related hSame path
    constructor
    · change ((targets.filter _).map _).Perm ((targets'.filter _).map _)
      rw [← map_eq_of_forall₂ hRelated fun _ _ h => h.usage]
      exact (hFiltered.map _).symm
    · exact (hFiltered.flatMap_right _).symm.trans
        (flatMap_perm_of_forall₂ hRelated fun _ _ h => h.messages)

end Grouping

section Reports

variable {platform : Platform} {first second : CsvText} {header header' : List Str}
  {rows middle rows' : List (List Str)} {targetList : Str → Bool} {result : TransformResult}

/-- A column that occurs twice is refused, wherever it stands. -/
theorem transform_of_repeated (hParse : Csv.parse first = .ok (header, rows))
    (hRepeated : ¬header.Nodup) : (transform platform first targetList).toOption = none := by
  cases hRun : transform platform first targetList with
  | error error => rfl
  | ok result => exact absurd ((transform_eq_ok_iff hParse _ _).mp hRun).1.distinct hRepeated

/-- A rearranged report is accepted if the report is, with the same facts. -/
theorem transform_rearranged (hFirst : Csv.parse first = .ok (header, rows))
    (hSecond : Csv.parse second = .ok (header', rows')) (hColumns : header.Perm header')
    (hOrder : middle.Perm rows) (hCells : List.Forall₂ (SameCells header header') middle rows')
    (hResult : transform platform first targetList = .ok result) :
    ∃ result', transform platform second targetList = .ok result' ∧ Alike result result' := by
  obtain ⟨hHeader, hRows, targets, hReads, hGrains, rfl⟩ :=
    (transform_eq_ok_iff hFirst _ _).mp hResult
  have hEmail (row row' : List Str) (h : SameCells header header' row row') :
      valueOf header row colUserEmail = valueOf header' row' colUserEmail :=
    h.cells _ (hHeader.complete _ (by simp [requiredColumns]))
  obtain ⟨kept, hKept, hKeptOrder⟩ := List.perm_comp_forall₂ (hOrder.filter _) hReads
  have hRelated : List.Forall₂ (SameCells header header')
      (middle.filter fun row => targetList (valueOf header row colUserEmail))
      (rows'.filter fun row => targetList (valueOf header' row colUserEmail)) :=
    filter_of_forall₂ hCells fun row row' h => by rw [hEmail row row' h]
  obtain ⟨targets', hReads', hSame⟩ := forall₂_transport hRelated hKept
    fun row target row' hRow hTarget => hRow.reads hColumns hHeader hTarget
  have hGrains' : (targets'.map TargetRow.grain).Nodup := by
    rw [← map_eq_of_forall₂ hSame fun _ _ h => h.grain]
    exact (hKeptOrder.map _).nodup_iff.mpr hGrains
  have hRows' : ∀ row ∈ rows', row.length = header'.length ∧
      isBlank (valueOf header' row colUserEmail) = false := by
    refine (forall_of_forall₂ hCells fun row hRow row' h => ?_).mp fun row hRow =>
      hRows row (hOrder.mem_iff.mp hRow)
    rw [hEmail row row' h, and_iff_right h.width, and_iff_right h.width']
  exact ⟨_, (transform_eq_ok_iff hSecond _ _).mpr
    ⟨hHeader.perm hColumns, hRows', targets', hReads', hGrains', rfl⟩,
    reference_alike (hOrder.length_eq.symm.trans hCells.length_eq) hKeptOrder hSame⟩

end Reports

section Permutations

variable {header row : List Str} {order : List Nat}

/-- The cells of a header or row in another order of the columns. -/
def reorder (order : List Nat) (cells : List Str) : List Str := order.map fun i => cells.getD i []

theorem length_reorder (hOrder : order.Perm (List.range header.length)) :
    (reorder order row).length = header.length := by
  rw [reorder, List.length_map, hOrder.length_eq, List.length_range]

theorem reorder_perm (hOrder : order.Perm (List.range header.length)) :
    header.Perm (reorder order header) := by
  have hRange : (List.range header.length).map (fun i => header.getD i []) = header := by
    apply List.ext_getElem
    · simp
    · intro i hLeft hRight
      simp [List.getD_eq_getElem?_getD, hRight]
  have hMapped := hOrder.map fun i => header.getD i []
  rw [hRange] at hMapped
  exact hMapped.symm

theorem sameCells_reorder (hOrder : order.Perm (List.range header.length)) (hDistinct : header.Nodup)
    (hWidth : row.length = header.length) :
    SameCells header (reorder order header) row (reorder order row) := by
  have hWidth' : (reorder order row).length = (reorder order header).length := by
    rw [length_reorder hOrder, length_reorder hOrder]
  refine ⟨hWidth, hWidth', fun column hColumn => ?_⟩
  have hZip := zip_eq_map_valueOf ((reorder_perm hOrder).nodup_iff.mp hDistinct) hWidth'
  have hPosition : header.idxOf column < header.length := List.idxOf_lt_length_iff.mpr hColumn
  have hName : header.getD (header.idxOf column) [] = column := by
    rw [List.getD_eq_getElem?_getD, List.getElem?_eq_getElem hPosition, Option.getD_some,
      List.getElem_idxOf hPosition]
  have hEach : ∀ i ∈ order, (header.getD i [], row.getD i []) =
      (header.getD i [], valueOf (reorder order header) (reorder order row) (header.getD i [])) := by
    apply List.map_inj_left.mp
    rw [← List.zip_map', ← reorder, ← reorder, hZip]
    conv_lhs => rw [reorder, List.map_map]
    rfl
  have hCell := congrArg Prod.snd
    (hEach _ (hOrder.mem_iff.mpr (List.mem_range.mpr hPosition)))
  rw [hName] at hCell
  exact hCell

end Permutations

/-- Any permutation of the rows and any one of the columns leaves the result as
it is, up to the order of partitions and records. -/
theorem order_irrelevant {platform : Platform} {first second : CsvText} {header : List Str}
    {rows rows' : List (List Str)} {order : List Nat} {targetList : Str → Bool}
    (hFirst : Csv.parse first = .ok (header, rows))
    (hWidths : ∀ row ∈ rows, row.length = header.length)
    (hOrder : order.Perm (List.range header.length))
    (hSecond : Csv.parse second = .ok (reorder order header, rows'))
    (hRows : rows'.Perm (rows.map (reorder order))) :
    Option.Rel Alike (transform platform first targetList).toOption
      (transform platform second targetList).toOption := by
  have hColumns := reorder_perm hOrder
  by_cases hDistinct : header.Nodup
  swap
  · rw [transform_of_repeated hFirst hDistinct,
      transform_of_repeated hSecond (hColumns.nodup_iff.not.mp hDistinct)]
    exact .none
  have hCells : List.Forall₂ (fun row' row => SameCells header (reorder order header) row row')
      (rows.map (reorder order)) rows := by
    rw [List.forall₂_map_left_iff, List.forall₂_same]
    exact fun row hRow => sameCells_reorder hOrder hDistinct (hWidths row hRow)
  obtain ⟨middle, hMiddle, hMiddleOrder⟩ := List.perm_comp_forall₂ hRows hCells
  obtain ⟨middle', hMiddle', hMiddleOrder'⟩ :=
    List.perm_comp_forall₂ hMiddleOrder.symm hMiddle.flip
  have hBack : List.Forall₂ (SameCells (reorder order header) header) middle' rows :=
    hMiddle'.flip.imp fun _ _ h => h.symm hColumns
  cases hRun : transform platform first targetList with
  | ok result =>
      obtain ⟨result', hRun', hAlike⟩ :=
        transform_rearranged hFirst hSecond hColumns hMiddleOrder hMiddle.flip hRun
      rw [hRun']
      exact .some hAlike
  | error error =>
      cases hRun' : transform platform second targetList with
      | ok result' =>
          obtain ⟨result, hAccepted, _⟩ :=
            transform_rearranged hSecond hFirst hColumns.symm hMiddleOrder' hBack hRun'
          rw [hRun] at hAccepted
          cases hAccepted
      | error error' => exact .none

section Example

/-- The columns of a report from right to left. -/
def mixedOrder : List Nat := (List.range mixedHeader.length).reverse

/-- The report with its columns from right to left and its rows from the last to the first. -/
def reversedReport : CsvText where
  records := some (reorder mixedOrder mixedHeader) ::
    (mixedRows.map (reorder mixedOrder)).reverse.map some

theorem order_irrelevant_example :
    Option.Rel Alike (transform examplePlatform mixedReport (· = ['a'])).toOption
      (transform examplePlatform reversedReport (· = ['a'])).toOption := by
  have hWidths : ∀ row ∈ mixedRows, row.length = mixedHeader.length := by decide
  have hSecond : Csv.parse reversedReport =
      .ok (reorder mixedOrder mixedHeader, (mixedRows.map (reorder mixedOrder)).reverse) :=
    eq_ok_of_toOption (by decide)
  exact order_irrelevant mixedReport_parses hWidths (List.reverse_perm _) hSecond
    (List.reverse_perm _)

end Example

end KiroIngest.ReportTransform
