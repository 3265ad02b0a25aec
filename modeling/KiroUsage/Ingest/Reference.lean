import KiroUsage.Ingest.Reconciliation

/-! What the transform is for, said without its loops: check the header, keep the
rows of Target Users, read each of them, group them by date and client type, and
unpivot their model columns. The transform accepts the same reports and gives
the same result. -/
namespace KiroIngest.ReportTransform

open Text Fallible

/-- The cell of a row in the column of a name. -/
def valueOf (header row : List Str) (column : Str) : Str := row.getD (header.idxOf column) []

/-- The model columns of a row: name of the column, name of the model, cell. -/
def modelCells (header row : List Str) : List (Str × Str × Str) :=
  (header.zip row).filterMap fun entry =>
    (modelColumnPattern entry.1).map fun model => (entry.1, model, entry.2)

/-- The contents of a row of a Target User. -/
structure TargetRow where
  date : Str
  clientType : Str
  usage : UsageDailyRecord
  messages : List ModelMessageRecord

def TargetRow.path (target : TargetRow) : Str × Str := (target.date, target.clientType)

def TargetRow.grain (target : TargetRow) : Str × Str × Str :=
  (target.date, target.usage.userId, target.clientType)

/-- The records of the model cells whose count is not zero, in header order. -/
def nonZeroMessages (userId email : Str) (counts : List ((Str × Str × Str) × Int)) :
    List ModelMessageRecord :=
  counts.filterMap fun entry =>
    if entry.2 = 0 then none else some ⟨userId, email, entry.1.2.1, entry.2⟩

/-- A row has these contents: each field is that of the column of its name. -/
structure Reads (platform : Platform) (header row : List Str) (target : TargetRow) : Prop where
  date : parseDate (valueOf header row colDate) = .ok target.date
  clientType : parseClientType (valueOf header row colClientType) = .ok target.clientType
  userId_present : isBlank (valueOf header row colUserId) = false
  userId : target.usage.userId = valueOf header row colUserId
  userEmail : target.usage.userEmail = valueOf header row colUserEmail
  chatConversations : parseNonNegativeLong (valueOf header row colChatConversations)
    colChatConversations = .ok target.usage.chatConversations
  creditsUsed : parseNonNegativeFiniteDouble platform (valueOf header row colCreditsUsed)
    colCreditsUsed = .ok target.usage.creditsUsed
  overageCap : parseNonNegativeFiniteDouble platform (valueOf header row colOverageCap)
    colOverageCap = .ok target.usage.overageCap
  overageCreditsUsed : parseNonNegativeFiniteDouble platform
    (valueOf header row colOverageCreditsUsed) colOverageCreditsUsed =
      .ok target.usage.overageCreditsUsed
  overageEnabled : parseBool (valueOf header row colOverageEnabled) colOverageEnabled =
    .ok target.usage.overageEnabled
  subscriptionTier_present : isBlank (valueOf header row colSubscriptionTier) = false
  subscriptionTier : target.usage.subscriptionTier = valueOf header row colSubscriptionTier
  totalMessages : parseNonNegativeLong (valueOf header row colTotalMessages) colTotalMessages =
    .ok target.usage.totalMessages
  newUser : parseBool (valueOf header row colNewUser) colNewUser = .ok target.usage.newUser
  profileId_present : isBlank (valueOf header row colProfileId) = false
  profileId : target.usage.profileId = valueOf header row colProfileId
  messages : ∃ counts, List.Forall₂ (fun cell count => parseNonNegativeLong cell.2.2 cell.1 = .ok count)
      (modelCells header row) counts ∧
    target.messages = nonZeroMessages target.usage.userId target.usage.userEmail
      ((modelCells header row).zip counts)

/-- A header that the transform accepts. -/
structure HeaderAccepted (header : List Str) : Prop where
  not_empty : header ≠ []
  present : ∀ column ∈ header, isBlank column = false
  distinct : header.Nodup
  complete : ∀ column ∈ requiredColumns, column ∈ header

/-- The partition of a date and client type: the rows of that key, in order. -/
def partitionOf (targets : List TargetRow) (path : Str × Str) : FactPartition where
  date := path.1
  clientType := path.2
  usageDaily := (targets.filter (·.path = path)).map (·.usage)
  modelMessages := (targets.filter (·.path = path)).flatMap (·.messages)

/-- One partition for each key, in the order of first occurrence. -/
def partitionsOf (targets : List TargetRow) : List FactPartition :=
  (targets.map TargetRow.path).eraseDups.map (partitionOf targets)

/-- The result over all rows, given the contents of the target rows. -/
def reference (rows : List (List Str)) (targets : List TargetRow) : TransformResult where
  rowsRead := rows.length
  rowsKept := targets.length
  partitions := partitionsOf targets

section Header

/-- The model columns of a header from a position on. -/
def modelPositions (start : Nat) (header : List Str) : List (Nat × Str) :=
  (header.zipIdx start).filterMap fun entry =>
    (modelColumnPattern entry.1).map fun model => (entry.2, model)

theorem lookup_zipIdx (header : List Str) (start : Nat) (column : Str) :
    (header.zipIdx start).lookup column =
      if column ∈ header then some (start + header.idxOf column) else none := by
  induction header generalizing start with
  | nil => rfl
  | cons first rest ih =>
      rw [List.zipIdx_cons, List.lookup_cons, ih]
      by_cases h : column = first
      · subst h
        simp
      · have hNe : first ≠ column := fun he => h he.symm
        simp only [beq_eq_false_iff_ne.mpr h, List.mem_cons, h, false_or,
          List.idxOf_cons_ne _ hNe]
        split_ifs
        · congr 1
          omega
        · rfl

theorem lookup_snoc_eq_none {index : ColumnIndex} {column other : Str} {i : Nat} :
    (index ++ [(column, i)]).lookup other = none ↔ index.lookup other = none ∧ other ≠ column := by
  have hLast : [(column, i)].lookup other = none ↔ other ≠ column := by
    by_cases h : other = column
    · simp [h]
    · simp [List.lookup_cons, beq_eq_false_iff_ne.mpr h, h]
  rw [List.lookup_append, Option.or_eq_none_iff, hLast]

theorem modelPositions_cons (start : Nat) (column : Str) (rest : List Str) :
    modelPositions start (column :: rest) =
      (modelColumnPattern column).toList.map (fun model => (start, model)) ++
        modelPositions (start + 1) rest := by
  unfold modelPositions
  rw [List.zipIdx_cons, List.filterMap_cons]
  cases modelColumnPattern column with
  | none => simp
  | some model => simp

/-- The header loop accepts distinct columns that are not blank. -/
theorem readHeader_eq_ok_iff {start : Nat} {header : List Str} {index : ColumnIndex}
    {modelColumns : List (Nat × Str)} {read : ColumnIndex × List (Nat × Str)} :
    readHeader start header index modelColumns = .ok read ↔
      (∀ column ∈ header, isBlank column = false) ∧ header.Nodup ∧
        (∀ column ∈ header, index.lookup column = none) ∧
        (index ++ header.zipIdx start, modelColumns ++ modelPositions start header) = read := by
  induction header generalizing start index modelColumns with
  | nil => simp [readHeader, modelPositions]
  | cons column rest ih =>
      unfold readHeader
      split_ifs with hRefused
      · have hEither : isBlank column = true ∨ (index.lookup column).isSome = true := by
          simpa only [Bool.or_eq_true] using hRefused
        constructor
        · intro h
          cases h
        · rintro ⟨hPresent, _, hFresh, _⟩
          rcases hEither with hBlank | hSeen
          · rw [hPresent column List.mem_cons_self] at hBlank
            cases hBlank
          · rw [hFresh column List.mem_cons_self] at hSeen
            cases hSeen
      · have hFirst : isBlank column = false ∧ index.lookup column = none := by
          simpa only [Bool.or_eq_true, not_or, Bool.not_eq_true, Option.isSome_eq_false_iff,
            Option.isNone_iff_eq_none] using hRefused
        have hStep (more : List (Nat × Str)) :
            ((∀ other ∈ rest, isBlank other = false) ∧ rest.Nodup ∧
              (∀ other ∈ rest, (index ++ [(column, start)]).lookup other = none) ∧
              (index ++ [(column, start)] ++ rest.zipIdx (start + 1), more) = read) ↔
            (∀ other ∈ column :: rest, isBlank other = false) ∧ (column :: rest).Nodup ∧
              (∀ other ∈ column :: rest, index.lookup other = none) ∧
              (index ++ (column :: rest).zipIdx start, more) = read := by
          simp only [lookup_snoc_eq_none, List.forall_mem_cons, hFirst, true_and, List.nodup_cons,
            List.zipIdx_cons, List.append_assoc, List.cons_append, List.nil_append]
          constructor
          · rintro ⟨hPresent, hDistinct, hFresh, hRead⟩
            exact ⟨hPresent, ⟨fun hm => (hFresh column hm).2 rfl, hDistinct⟩,
              fun other hm => (hFresh other hm).1, hRead⟩
          · rintro ⟨hPresent, ⟨hNew, hDistinct⟩, hFresh, hRead⟩
            exact ⟨hPresent, hDistinct,
              fun other hm => ⟨hFresh other hm, fun he => hNew (he ▸ hm)⟩, hRead⟩
        rw [ih, hStep, modelPositions_cons]
        cases modelColumnPattern column with
        | none => simp
        | some model => simp

theorem requireColumns_eq_ok_iff {header columns : List Str} {done : Unit} :
    requireColumns header.zipIdx columns = .ok done ↔ ∀ column ∈ columns, column ∈ header := by
  induction columns with
  | nil => exact ⟨fun _ => nofun, fun _ => rfl⟩
  | cons column rest ih =>
      unfold requireColumns
      rw [lookup_zipIdx, List.forall_mem_cons]
      by_cases h : column ∈ header
      · rw [if_pos h, if_pos Option.isSome_some, ih, and_iff_right h]
      · rw [if_neg h]
        exact ⟨nofun, fun hAll => absurd hAll.1 h⟩

end Header

section Rows

variable {header row : List Str}

/-- The field of a column is the cell under its name. -/
theorem field_eq {column : Str} (hColumn : column ∈ header) (hWidth : row.length = header.length) :
    field row (header.zipIdx) column = .ok (valueOf header row column) := by
  have hPosition : header.idxOf column < row.length := hWidth ▸ List.idxOf_lt_length_iff.mpr hColumn
  unfold field valueOf
  rw [lookup_zipIdx, if_pos hColumn, Nat.zero_add]
  simp only [cell, List.getD_eq_getElem?_getD, List.getElem?_eq_getElem hPosition,
    Option.getD_some]

theorem requiredString_eq_ok_iff {value column result : Str} :
    requiredString value column = .ok result ↔ isBlank value = false ∧ result = value := by
  unfold requiredString
  split_ifs with h
  · simp [h]
  · rw [(Bool.not_eq_true _).mp h, Except.ok.injEq]
    simp [eq_comm]

/-- The fields of the usage record are read one by one. -/
theorem readUsage_eq_ok_iff {platform : Platform} (hHeader : HeaderAccepted header)
    (hWidth : row.length = header.length) {userId email : Str} {usage : UsageDailyRecord} :
    readUsage platform row header.zipIdx userId email = .ok usage ↔
      usage.userId = userId ∧ usage.userEmail = email ∧
      parseNonNegativeLong (valueOf header row colChatConversations) colChatConversations =
        .ok usage.chatConversations ∧
      parseNonNegativeFiniteDouble platform (valueOf header row colCreditsUsed) colCreditsUsed =
        .ok usage.creditsUsed ∧
      parseNonNegativeFiniteDouble platform (valueOf header row colOverageCap) colOverageCap =
        .ok usage.overageCap ∧
      parseNonNegativeFiniteDouble platform (valueOf header row colOverageCreditsUsed)
        colOverageCreditsUsed = .ok usage.overageCreditsUsed ∧
      parseBool (valueOf header row colOverageEnabled) colOverageEnabled =
        .ok usage.overageEnabled ∧
      (isBlank (valueOf header row colSubscriptionTier) = false ∧
        usage.subscriptionTier = valueOf header row colSubscriptionTier) ∧
      parseNonNegativeLong (valueOf header row colTotalMessages) colTotalMessages =
        .ok usage.totalMessages ∧
      parseBool (valueOf header row colNewUser) colNewUser = .ok usage.newUser ∧
      (isBlank (valueOf header row colProfileId) = false ∧
        usage.profileId = valueOf header row colProfileId) := by
  have hField (column : Str) (hColumn : column ∈ requiredColumns) :
      field row header.zipIdx column = .ok (valueOf header row column) :=
    field_eq (hHeader.complete column hColumn) hWidth
  unfold readUsage
  rw [hField colChatConversations (by simp [requiredColumns]),
    hField colCreditsUsed (by simp [requiredColumns]),
    hField colOverageCap (by simp [requiredColumns]),
    hField colOverageCreditsUsed (by simp [requiredColumns]),
    hField colOverageEnabled (by simp [requiredColumns]),
    hField colSubscriptionTier (by simp [requiredColumns]),
    hField colTotalMessages (by simp [requiredColumns]),
    hField colNewUser (by simp [requiredColumns]),
    hField colProfileId (by simp [requiredColumns])]
  simp only [ok_bind, bind_eq_ok, pure_eq_ok, requiredString_eq_ok_iff]
  constructor
  · rintro ⟨_, h₁, _, h₂, _, h₃, _, h₄, _, h₅, _, h₆, _, h₇, _, h₈, _, h₉, rfl⟩
    exact ⟨rfl, rfl, h₁, h₂, h₃, h₄, h₅, h₆, h₇, h₈, h₉⟩
  · rintro ⟨rfl, rfl, h₁, h₂, h₃, h₄, h₅, h₆, h₇, h₈, h₉⟩
    exact ⟨_, h₁, _, h₂, _, h₃, _, h₄, _, h₅, _, h₆, _, h₇, _, h₈, _, h₉, rfl⟩

/-- The model columns from a position on name the cells of the row there. -/
theorem modelPositions_cells (columns cells before beforeRow : List Str)
    (hHeader : header = before ++ columns) (hRow : row = beforeRow ++ cells)
    (hBefore : before.length = beforeRow.length) (hWidth : columns.length = cells.length) :
    List.Forall₂ (fun position entry => header[position.1]? = some entry.1 ∧
        row[position.1]? = some entry.2.2 ∧ position.2 = entry.2.1)
      (modelPositions before.length columns) (modelCells columns cells) := by
  induction columns generalizing cells before beforeRow with
  | nil => exact .nil
  | cons column rest ih =>
      cases cells with
      | nil => cases hWidth
      | cons cell others =>
          have hRest := ih others (before ++ [column]) (beforeRow ++ [cell]) (by simp [hHeader])
            (by simp [hRow]) (by simp [hBefore]) (by simpa using hWidth)
          have hCells : modelCells (column :: rest) (cell :: others) =
              (modelColumnPattern column).toList.map (fun model => (column, model, cell)) ++
                modelCells rest others := by
            unfold modelCells
            rw [List.zip_cons_cons, List.filterMap_cons]
            cases modelColumnPattern column with
            | none => simp
            | some model => simp
          rw [modelPositions_cons, hCells]
          rw [List.length_append, List.length_singleton] at hRest
          cases modelColumnPattern column with
          | none => exact hRest
          | some model =>
              refine .cons ⟨?_, ?_, rfl⟩ hRest
              · simp [hHeader]
              · simp [hRow, hBefore]

/-- The unpivot loop reads every cell and keeps the counts that are not zero. -/
theorem unpivot_eq_ok_iff {userId email : Str} {columns : List (Nat × Str)}
    {cells : List (Str × Str × Str)} (h : List.Forall₂ (fun position entry =>
      header[position.1]? = some entry.1 ∧ row[position.1]? = some entry.2.2 ∧
        position.2 = entry.2.1) columns cells) {messages : List ModelMessageRecord} :
    unpivot header row userId email columns = .ok messages ↔
      ∃ counts, List.Forall₂ (fun entry count => parseNonNegativeLong entry.2.2 entry.1 = .ok count)
          cells counts ∧ messages = nonZeroMessages userId email (cells.zip counts) := by
  induction h generalizing messages with
  | nil =>
      constructor
      · intro hOk
        cases hOk
        exact ⟨[], .nil, rfl⟩
      · rintro ⟨counts, hCounts, rfl⟩
        cases hCounts
        rfl
  | @cons position entry columns cells hFirst _ ih =>
      obtain ⟨hColumn, hCell, hModel⟩ := hFirst
      have hReadColumn : cell header position.1 = .ok entry.1 := by simp only [cell, hColumn]
      have hReadCell : cell row position.1 = .ok entry.2.2 := by simp only [cell, hCell]
      obtain ⟨i, model⟩ := position
      cases hModel
      simp only [unpivot, hReadColumn, hReadCell, ok_bind, bind_eq_ok, pure_eq_ok, ih]
      constructor
      · rintro ⟨count, hCount, others, ⟨counts, hCounts, rfl⟩, rfl⟩
        refine ⟨count :: counts, .cons hCount hCounts, ?_⟩
        split_ifs with hZero
        · simp [nonZeroMessages, hZero]
        · simp [nonZeroMessages, hZero]
      · rintro ⟨counts, hCounts, rfl⟩
        cases hCounts with
        | @cons _ count _ counts hCount hCounts =>
            refine ⟨count, hCount, _, ⟨counts, hCounts, rfl⟩, ?_⟩
            split_ifs with hZero
            · simp [nonZeroMessages, hZero]
            · simp [nonZeroMessages, hZero]

/-- The loop as it stands after a target row. -/
def Accumulator.keepTarget (acc : Accumulator) (target : TargetRow) : Accumulator :=
  acc.keep target.date target.clientType target.usage target.messages

/-- One turn of the row loop: a row of another user leaves no trace, and a row of
a Target User is read and kept under a new grain. -/
theorem processRow_eq_ok_iff {platform : Platform} {targetList : Str → Bool}
    (hHeader : HeaderAccepted header) {acc after : Accumulator} :
    processRow platform targetList header header.zipIdx (modelPositions 0 header) acc row =
        .ok after ↔
      row.length = header.length ∧ isBlank (valueOf header row colUserEmail) = false ∧
        ((targetList (valueOf header row colUserEmail) = false ∧ after = acc) ∨
          targetList (valueOf header row colUserEmail) = true ∧ ∃ target,
            Reads platform header row target ∧ target.grain ∉ acc.usageGrains ∧
              after = acc.keepTarget target) := by
  unfold processRow
  by_cases hWidth : row.length = header.length
  swap
  · rw [if_pos hWidth]
    exact ⟨fun h => absurd h throw_bind_ne_ok, fun h => absurd h.1 hWidth⟩
  have hField (column : Str) (hColumn : column ∈ requiredColumns) :
      field row header.zipIdx column = .ok (valueOf header row column) :=
    field_eq (hHeader.complete column hColumn) hWidth
  have hUnpivot (userId email : Str) (messages : List ModelMessageRecord) :
      unpivot header row userId email (modelPositions 0 header) = .ok messages ↔ _ :=
    unpivot_eq_ok_iff (modelPositions_cells header row [] [] rfl rfl rfl hWidth.symm)
  rw [if_neg (not_not.mpr hWidth), hField colUserEmail (by simp [requiredColumns]),
    hField colDate (by simp [requiredColumns]),
    hField colClientType (by simp [requiredColumns]),
    hField colUserId (by simp [requiredColumns])]
  simp only [ok_bind, bind_eq_ok, requiredString_eq_ok_iff]
  constructor
  · rintro ⟨_, ⟨hEmail, rfl⟩, h⟩
    refine ⟨hWidth, hEmail, ?_⟩
    split_ifs at h with hOther
    · exact Or.inl ⟨by simpa using hOther, (pure_eq_ok.mp h).symm⟩
    simp only [bind_eq_ok, requiredString_eq_ok_iff] at h
    obtain ⟨date, hDate, clientType, hType, _, ⟨hUser, rfl⟩, h⟩ := h
    split_ifs at h with hGrain
    · exact absurd h throw_bind_ne_ok
    simp only [bind_eq_ok, pure_eq_ok] at h
    obtain ⟨usage, hUsage, messages, hMessages, rfl⟩ := h
    obtain ⟨hId, hAddress, h₁, h₂, h₃, h₄, h₅, h₆, h₇, h₈, h₉⟩ :=
      (readUsage_eq_ok_iff hHeader hWidth).mp hUsage
    have hCounts := (hUnpivot _ _ _).mp hMessages
    rw [← hId, ← hAddress] at hCounts
    refine Or.inr ⟨by simpa using hOther, ⟨date, clientType, usage, messages⟩,
      ⟨hDate, hType, hUser, hId, hAddress, h₁, h₂, h₃, h₄, h₅, h₆.1, h₆.2, h₇, h₈, h₉.1, h₉.2, hCounts⟩,
      ?_, ?_⟩
    · simpa [TargetRow.grain, hId] using hGrain
    · simp [Accumulator.keepTarget, Accumulator.keep, hId]
  · rintro ⟨_, hEmail, ⟨hOther, rfl⟩ | ⟨hTarget, target, hReads, hGrain, rfl⟩⟩
    · exact ⟨_, ⟨hEmail, rfl⟩, by rw [hOther]; rfl⟩
    refine ⟨_, ⟨hEmail, rfl⟩, ?_⟩
    have hUsage : readUsage platform row header.zipIdx (valueOf header row colUserId)
        (valueOf header row colUserEmail) = .ok target.usage := (readUsage_eq_ok_iff hHeader hWidth).mpr
      ⟨hReads.userId, hReads.userEmail, hReads.chatConversations, hReads.creditsUsed,
        hReads.overageCap, hReads.overageCreditsUsed, hReads.overageEnabled,
        ⟨hReads.subscriptionTier_present, hReads.subscriptionTier⟩, hReads.totalMessages,
        hReads.newUser, ⟨hReads.profileId_present, hReads.profileId⟩⟩
    have hCounts := hReads.messages
    rw [hReads.userId, hReads.userEmail] at hCounts
    have hMessages := (hUnpivot _ _ _).mpr hCounts
    have hFresh : acc.usageGrains.contains
        (target.date, valueOf header row colUserId, target.clientType) = false := by
      simpa [TargetRow.grain, hReads.userId] using hGrain
    rw [hTarget, if_neg (by simp)]
    simp only [bind_eq_ok, requiredString_eq_ok_iff]
    refine ⟨_, hReads.date, _, hReads.clientType, _, ⟨hReads.userId_present, rfl⟩, ?_⟩
    rw [hFresh, if_neg (by simp)]
    simp only [bind_eq_ok, pure_eq_ok]
    exact ⟨_, hUsage, _, hMessages, by simp [Accumulator.keepTarget, Accumulator.keep, hReads.userId]⟩

end Rows

section Grouping

variable {targets : List TargetRow}

/-- A further row changes the partition of its own key only. -/
theorem partitionOf_snoc (targets : List TargetRow) (target : TargetRow) (path : Str × Str) :
    partitionOf (targets ++ [target]) path =
      if path = target.path then
        { partitionOf targets path with
          usageDaily := (partitionOf targets path).usageDaily ++ [target.usage]
          modelMessages := (partitionOf targets path).modelMessages ++ target.messages }
      else partitionOf targets path := by
  unfold partitionOf
  split_ifs with h
  · simp [h]
  · have hOther : ¬target.path = path := fun he => h he.symm
    simp [hOther]

/-- A key without rows has an empty partition. -/
theorem partitionOf_of_not_mem {path : Str × Str} (h : path ∉ targets.map TargetRow.path) :
    partitionOf targets path = ⟨path.1, path.2, [], []⟩ := by
  have hNone : targets.filter (·.path = path) = [] := by
    rw [List.filter_eq_nil_iff]
    intro target hm
    simpa using fun he : target.path = path => h (List.mem_map.mpr ⟨target, hm, he⟩)
  simp [partitionOf, hNone]

theorem eraseDups_snoc {α : Type} [BEq α] [LawfulBEq α] (keys : List α) (key : α) :
    (keys ++ [key]).eraseDups = if key ∈ keys then keys.eraseDups else keys.eraseDups ++ [key] := by
  rw [List.eraseDups_append]
  split_ifs with h
  · simp [List.removeAll, h]
  · simp [List.removeAll, h, List.eraseDups_cons]

/-- The map of partitions before the rows of a target are added. -/
theorem getOrCreatePartition_eq (targets : List TargetRow) (target : TargetRow) :
    getOrCreatePartition (partitionsOf targets) target.date target.clientType =
      ((targets ++ [target]).map TargetRow.path).eraseDups.map (partitionOf targets) := by
  have hAny : ((partitionsOf targets).any fun partition =>
      partition.date = target.date ∧ partition.clientType = target.clientType) = true ↔
        target.path ∈ targets.map TargetRow.path := by
    rw [← List.mem_eraseDups]
    simp only [partitionsOf, List.any_eq_true, List.mem_map, decide_eq_true_eq]
    constructor
    · rintro ⟨_, ⟨path, hPath, rfl⟩, hDate, hType⟩
      rwa [show target.path = path from Prod.ext hDate.symm hType.symm]
    · exact fun h => ⟨_, ⟨target.path, h, rfl⟩, rfl, rfl⟩
  rw [List.map_append, List.map_singleton, eraseDups_snoc]
  unfold getOrCreatePartition
  by_cases hSeen : target.path ∈ targets.map TargetRow.path
  · rw [if_pos hSeen, if_pos (hAny.mpr hSeen)]
    rfl
  · rw [if_neg hSeen, if_neg fun h => hSeen (hAny.mp h), List.map_append, List.map_singleton,
      partitionOf_of_not_mem hSeen]
    rfl

/-- The row loop groups the rows. -/
theorem foldl_keepTarget (targets : List TargetRow) :
    targets.foldl Accumulator.keepTarget ⟨[], [], 0⟩ =
      ⟨partitionsOf targets, (targets.map TargetRow.grain).reverse, targets.length⟩ := by
  induction targets using List.reverseRecOn with
  | nil => rfl
  | append_singleton targets target ih =>
      have hPartitions : addRows (getOrCreatePartition (partitionsOf targets) target.date
          target.clientType) target.date target.clientType target.usage target.messages =
            partitionsOf (targets ++ [target]) := by
        rw [getOrCreatePartition_eq]
        unfold addRows partitionsOf
        rw [List.map_map]
        refine List.map_congr_left fun path _ => ?_
        rw [partitionOf_snoc]
        have hKey : ((partitionOf targets path).date = target.date ∧
            (partitionOf targets path).clientType = target.clientType) ↔ path = target.path :=
          ⟨fun h => Prod.ext h.1 h.2, fun h => ⟨congrArg Prod.fst h, congrArg Prod.snd h⟩⟩
        simp only [Function.comp, hKey]
      rw [List.foldl_append, ih]
      simp only [List.foldl_cons, List.foldl_nil, Accumulator.keepTarget, Accumulator.keep,
        hPartitions, List.map_append, List.map_singleton, List.reverse_append, List.length_append]
      rfl

/-- The row loop accepts rows of one width with an email, whose target rows can
be read and have distinct grains. -/
theorem processRows_eq_ok_iff {platform : Platform} {targetList : Str → Bool} {header : List Str}
    (hHeader : HeaderAccepted header) {rows : List (List Str)} {acc after : Accumulator} :
    rows.foldlM (processRow platform targetList header header.zipIdx (modelPositions 0 header)) acc =
        .ok after ↔
      (∀ row ∈ rows, row.length = header.length ∧ isBlank (valueOf header row colUserEmail) = false) ∧
        ∃ targets, List.Forall₂ (Reads platform header)
            (rows.filter fun row => targetList (valueOf header row colUserEmail)) targets ∧
          (targets.map TargetRow.grain).Nodup ∧
          (∀ target ∈ targets, target.grain ∉ acc.usageGrains) ∧
          after = targets.foldl Accumulator.keepTarget acc := by
  induction rows generalizing acc with
  | nil =>
      simp only [List.foldlM_nil, pure_eq_ok]
      constructor
      · rintro rfl
        exact ⟨nofun, [], .nil, List.nodup_nil, nofun, rfl⟩
      · rintro ⟨_, targets, hReads, _, _, rfl⟩
        cases hReads
        rfl
  | cons row rest ih =>
      simp only [List.foldlM_cons, bind_eq_ok, processRow_eq_ok_iff hHeader, ih,
        List.forall_mem_cons]
      constructor
      · rintro ⟨middle, ⟨hWidth, hEmail, ⟨hOther, rfl⟩ | ⟨hTarget, target, hReads, hGrain, rfl⟩⟩,
          hRest, targets, hAll, hNodup, hFresh, rfl⟩
        · refine ⟨⟨⟨hWidth, hEmail⟩, hRest⟩, targets, ?_, hNodup, hFresh, rfl⟩
          rwa [List.filter_cons, if_neg (by simp [hOther])]
        · refine ⟨⟨⟨hWidth, hEmail⟩, hRest⟩, target :: targets, ?_, ?_, ?_, rfl⟩
          · rw [List.filter_cons, if_pos hTarget]
            exact .cons hReads hAll
          · rw [List.map_cons, List.nodup_cons]
            refine ⟨fun hm => ?_, hNodup⟩
            obtain ⟨other, hOther, hSame⟩ := List.mem_map.mp hm
            exact hFresh other hOther (hSame ▸ List.mem_cons_self)
          · rw [List.forall_mem_cons]
            exact ⟨hGrain, fun other hm hSeen => hFresh other hm (List.mem_cons_of_mem _ hSeen)⟩
      · rintro ⟨⟨⟨hWidth, hEmail⟩, hRest⟩, targets, hAll, hNodup, hFresh, rfl⟩
        cases hTarget : targetList (valueOf header row colUserEmail) with
        | false =>
            rw [List.filter_cons, if_neg (by simp [hTarget])] at hAll
            exact ⟨acc, ⟨hWidth, hEmail, Or.inl ⟨rfl, rfl⟩⟩, hRest, targets, hAll, hNodup, hFresh, rfl⟩
        | true =>
            rw [List.filter_cons, if_pos hTarget] at hAll
            cases hAll with
            | @cons _ target _ targets hReads hAll =>
                rw [List.map_cons, List.nodup_cons] at hNodup
                rw [List.forall_mem_cons] at hFresh
                refine ⟨acc.keepTarget target, ⟨hWidth, hEmail,
                  Or.inr ⟨rfl, target, hReads, hFresh.1, rfl⟩⟩, hRest, targets, hAll, hNodup.2, ?_, rfl⟩
                intro other hm hSeen
                rcases List.mem_cons.mp hSeen with hSame | hSeen
                · exact hNodup.1 (List.mem_map.mpr ⟨other, hm, hSame⟩)
                · exact hFresh.2 other hm hSeen

end Grouping

/-- The transform meets its reference: it accepts a report exactly if the header
is accepted, every row has its width and an email, and the rows of Target Users
can be read and have distinct grains; the result is then that of the reference. -/
theorem transform_eq_ok_iff {platform : Platform} {csvText : CsvText} {header : List Str}
    {rows : List (List Str)} (hParse : Csv.parse csvText = .ok (header, rows))
    (targetList : Str → Bool) (result : TransformResult) :
    transform platform csvText targetList = .ok result ↔
      HeaderAccepted header ∧
      (∀ row ∈ rows, row.length = header.length ∧ isBlank (valueOf header row colUserEmail) = false) ∧
      ∃ targets, List.Forall₂ (Reads platform header)
          (rows.filter fun row => targetList (valueOf header row colUserEmail)) targets ∧
        (targets.map TargetRow.grain).Nodup ∧ result = reference rows targets := by
  unfold transform
  rw [hParse, ok_bind]
  by_cases hEmpty : header = []
  · simp only [hEmpty, List.length_nil, if_true]
    exact ⟨fun h => absurd h throw_bind_ne_ok, fun h => absurd rfl h.1.not_empty⟩
  dsimp only
  rw [if_neg (by simpa using hEmpty)]
  simp only [bind_eq_ok, pure_eq_ok, readHeader_eq_ok_iff, List.nil_append]
  constructor
  · rintro ⟨_, ⟨hPresent, hDistinct, _, rfl⟩, _, hComplete, acc, hRows, rfl⟩
    have hHeader : HeaderAccepted header :=
      ⟨hEmpty, hPresent, hDistinct, requireColumns_eq_ok_iff.mp hComplete⟩
    obtain ⟨hWidths, targets, hReads, hNodup, _, rfl⟩ := (processRows_eq_ok_iff hHeader).mp hRows
    refine ⟨hHeader, hWidths, targets, hReads, hNodup, ?_⟩
    rw [foldl_keepTarget]
    rfl
  · rintro ⟨hHeader, hWidths, targets, hReads, hNodup, rfl⟩
    refine ⟨_, ⟨hHeader.present, hHeader.distinct, fun _ _ => rfl, rfl⟩, (),
      requireColumns_eq_ok_iff.mpr hHeader.complete, _,
      (processRows_eq_ok_iff hHeader).mpr ⟨hWidths, targets, hReads, hNodup, nofun, rfl⟩, ?_⟩
    rw [foldl_keepTarget]
    rfl

section Example

/-- The only row of the example's report. -/
def exampleRow : List Str := exampleRowOf "20".toList ['u'] ['a']

theorem exampleReport_parses : Csv.parse (exampleReport ['a']) = .ok (exampleHeader, [exampleRow]) :=
  eq_ok_of_toOption (by decide)

/-- The columns of two models. -/
def mixedHeader : List Str := exampleHeader ++ ["claude_messages".toList]

/-- Two days of the listed user, and between them a row of another user. -/
def mixedRows : List (List Str) :=
  [exampleRow ++ [['4']], exampleRowOf "20".toList ['v'] ['z'] ++ [['5']],
    exampleRowOf "21".toList ['u'] ['a'] ++ [['0']]]

def mixedReport : CsvText where records := some mixedHeader :: mixedRows.map some

def mixedResult : TransformResult where
  rowsRead := 3
  rowsKept := 2
  partitions :=
    [⟨"2026-06-20".toList, "KIRO_CLI".toList, [⟨['u'], ['a'], 1, 0, 0, 0, false, ['t'], 2, false, ['p']⟩],
        [⟨['u'], ['a'], "auto".toList, 3⟩, ⟨['u'], ['a'], "claude".toList, 4⟩]⟩,
      ⟨"2026-06-21".toList, "KIRO_CLI".toList, [⟨['u'], ['a'], 1, 0, 0, 0, false, ['t'], 2, false, ['p']⟩],
        [⟨['u'], ['a'], "auto".toList, 3⟩]⟩]

theorem mixedReport_parses : Csv.parse mixedReport = .ok (mixedHeader, mixedRows) :=
  eq_ok_of_toOption (by decide)

theorem mixedReport_accepted : transform examplePlatform mixedReport (· = ['a']) = .ok mixedResult :=
  eq_ok_of_toOption (by decide)

/-- The rows of the listed user give two partitions, as in the reference. -/
theorem transform_eq_ok_iff_example :
    ∃ targets, targets.length = 2 ∧ (targets.map TargetRow.grain).Nodup ∧
      mixedResult = reference mixedRows targets := by
  obtain ⟨_, _, targets, hReads, hNodup, hResult⟩ :=
    (transform_eq_ok_iff mixedReport_parses _ _).mp mixedReport_accepted
  exact ⟨targets, hReads.length_eq.symm, hNodup, hResult⟩

end Example

end KiroIngest.ReportTransform
