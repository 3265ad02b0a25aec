import KiroUsage.Ingest.ReportTransform
import KiroUsage.Semantics.Fallible

/-! What holds of every accepted report: the partitions are distinct, each row
belongs to the Target List, and within a report no grain occurs twice. -/
namespace KiroIngest.ReportTransform

open Text Fallible

theorem parseDate_eq_ok {value result : Str} (h : parseDate value = .ok result) :
    ∃ date : DateOnly, result = date.format := by
  unfold parseDate at h
  cases hParse : DateOnly.tryParseExact value with
  | none => rw [hParse] at h; cases h
  | some date => rw [hParse] at h; cases h; exact ⟨date, rfl⟩

theorem parseClientType_eq_ok_iff {value result : Str} :
    parseClientType value = .ok result ↔ value ∈ supportedClientTypes ∧ result = value := by
  unfold parseClientType
  split_ifs with h
  · rw [Except.ok.injEq]
    exact ⟨fun hSame => ⟨List.contains_iff_mem.mp h, hSame.symm⟩, fun hBoth => hBoth.2.symm⟩
  · exact ⟨nofun, fun hBoth => absurd (List.contains_iff_mem.mpr hBoth.1) h⟩

theorem parseClientType_eq_ok {value result : Str} (h : parseClientType value = .ok result) :
    result ∈ supportedClientTypes := by
  obtain ⟨hSupported, rfl⟩ := parseClientType_eq_ok_iff.mp h
  exact hSupported

theorem readUsage_eq_ok {platform : Platform} {row : List Str} {index : ColumnIndex}
    {userId email : Str} {usage : UsageDailyRecord}
    (h : readUsage platform row index userId email = .ok usage) :
    usage.userId = userId ∧ usage.userEmail = email := by
  unfold readUsage at h
  simp only [bind_eq_ok, pure_eq_ok] at h
  grind

theorem unpivot_eq_ok {header row : List Str} {userId email : Str} {columns : List (Nat × Str)}
    {messages : List ModelMessageRecord} (h : unpivot header row userId email columns = .ok messages) :
    ∀ m ∈ messages, m.userEmail = email := by
  induction columns generalizing messages with
  | nil =>
      cases h
      simp
  | cons column rest ih =>
      simp only [unpivot, bind_eq_ok, pure_eq_ok] at h
      obtain ⟨_, _, _, _, count, _, others, hOthers, rfl⟩ := h
      split_ifs
      · exact ih hOthers
      · intro m hm
        rcases List.mem_cons.mp hm with rfl | hm
        · rfl
        · exact ih hOthers m hm

/-- The row loop as it stands after one kept row. -/
def Accumulator.keep (acc : Accumulator) (date clientType : Str) (usage : UsageDailyRecord)
    (messages : List ModelMessageRecord) : Accumulator :=
  ⟨addRows (getOrCreatePartition acc.partitions date clientType) date clientType usage messages,
    (date, usage.userId, clientType) :: acc.usageGrains, acc.rowsKept + 1⟩

/-- A row is either outside the Target List or kept, with a new grain. -/
theorem processRow_cases {platform : Platform} {targetList : Str → Bool} {header : List Str}
    {index : ColumnIndex} {modelColumns : List (Nat × Str)} {acc after : Accumulator}
    {row : List Str}
    (h : processRow platform targetList header index modelColumns acc row = .ok after) :
    after = acc ∨ ∃ (date : DateOnly) (clientType : Str) (usage : UsageDailyRecord)
      (messages : List ModelMessageRecord), clientType ∈ supportedClientTypes ∧
      (date.format, usage.userId, clientType) ∉ acc.usageGrains ∧
      targetList usage.userEmail = true ∧ (∀ m ∈ messages, targetList m.userEmail = true) ∧
      after = acc.keep date.format clientType usage messages := by
  unfold processRow at h
  split_ifs at h with hWidth
  · exact absurd h throw_bind_ne_ok
  simp only [bind_eq_ok] at h
  obtain ⟨_, _, email, hEmail, h⟩ := h
  split_ifs at h with hTarget
  · exact Or.inl (pure_eq_ok.mp h).symm
  simp only [bind_eq_ok] at h
  obtain ⟨_, _, date, hDate, _, _, clientType, hType, _, _, userId, _, h⟩ := h
  split_ifs at h with hGrain
  · exact absurd h throw_bind_ne_ok
  simp only [bind_eq_ok, pure_eq_ok] at h
  obtain ⟨usage, hUsage, messages, hMessages, rfl⟩ := h
  obtain ⟨date, rfl⟩ := parseDate_eq_ok hDate
  obtain ⟨rfl, rfl⟩ := readUsage_eq_ok hUsage
  have hListed : targetList usage.userEmail = true := by simpa using hTarget
  refine Or.inr ⟨date, clientType, usage, messages, parseClientType_eq_ok hType, ?_, hListed,
    ?_, rfl⟩
  · simpa using hGrain
  · intro m hm
    rw [unpivot_eq_ok hMessages m hm]
    exact hListed

/-- The partitions after one kept row: those of before, one of them with the
new rows, and perhaps a new one for the row. -/
theorem mem_keep_partitions {acc : Accumulator} {date clientType : Str} {usage : UsageDailyRecord}
    {messages : List ModelMessageRecord} {after : FactPartition}
    (h : after ∈ (acc.keep date clientType usage messages).partitions) :
    (after ∈ acc.partitions ∧ after.path ≠ (date, clientType)) ∨
      ∃ before : FactPartition, before.path = (date, clientType) ∧
        (before ∈ acc.partitions ∨ before = ⟨date, clientType, [], []⟩) ∧
        after = { before with
          usageDaily := before.usageDaily ++ [usage]
          modelMessages := before.modelMessages ++ messages } := by
  simp only [Accumulator.keep, addRows, List.mem_map] at h
  obtain ⟨before, hBefore, rfl⟩ := h
  have hCreated : before ∈ acc.partitions ∨ before = ⟨date, clientType, [], []⟩ := by
    unfold getOrCreatePartition at hBefore
    split_ifs at hBefore
    · exact Or.inl hBefore
    · simpa using hBefore
  split_ifs with hPath
  · exact Or.inr ⟨before, by simp [FactPartition.path, hPath], hCreated, rfl⟩
  · have hNe : before.path ≠ (date, clientType) := fun he => hPath (by simpa [FactPartition.path] using he)
    refine Or.inl ⟨hCreated.resolve_right ?_, hNe⟩
    rintro rfl
    exact hNe rfl

theorem keep_paths {acc : Accumulator} {date clientType : Str} {usage : UsageDailyRecord}
    {messages : List ModelMessageRecord} :
    (acc.keep date clientType usage messages).partitions.map FactPartition.path =
      (getOrCreatePartition acc.partitions date clientType).map FactPartition.path := by
  simp only [Accumulator.keep, addRows, List.map_map]
  apply List.map_congr_left
  intro partition _
  simp only [Function.comp]
  split_ifs <;> rfl

theorem getOrCreatePartition_nodup {partitions : List FactPartition} {date clientType : Str}
    (h : (partitions.map FactPartition.path).Nodup) :
    ((getOrCreatePartition partitions date clientType).map FactPartition.path).Nodup := by
  unfold getOrCreatePartition
  split_ifs with hAny
  · exact h
  · rw [List.map_append, List.nodup_append]
    refine ⟨h, by simp, ?_⟩
    rintro path hPath other hOther rfl
    obtain ⟨partition, hMem, rfl⟩ := List.mem_map.mp hPath
    refine hAny (List.any_eq_true.mpr ⟨partition, hMem, ?_⟩)
    simpa [FactPartition.path] using hOther

/-- What the row loop keeps. -/
structure Accumulator.Inv (targetList : Str → Bool) (acc : Accumulator) : Prop where
  paths_nodup : (acc.partitions.map FactPartition.path).Nodup
  dates : ∀ p ∈ acc.partitions, ∃ date : DateOnly, p.date = date.format
  clientTypes : ∀ p ∈ acc.partitions, p.clientType ∈ supportedClientTypes
  usage_listed : ∀ p ∈ acc.partitions, ∀ r ∈ p.usageDaily, targetList r.userEmail = true
  messages_listed : ∀ p ∈ acc.partitions, ∀ r ∈ p.modelMessages, targetList r.userEmail = true
  grains : ∀ p ∈ acc.partitions, ∀ r ∈ p.usageDaily, (p.date, r.userId, p.clientType) ∈ acc.usageGrains
  users_nodup : ∀ p ∈ acc.partitions, (p.usageDaily.map (·.userId)).Nodup

theorem inv_empty (targetList : Str → Bool) : Accumulator.Inv targetList ⟨[], [], 0⟩ := by
  constructor <;> simp

theorem processRow_inv {platform : Platform} {targetList : Str → Bool} {header : List Str}
    {index : ColumnIndex} {modelColumns : List (Nat × Str)} {acc after : Accumulator}
    {row : List Str}
    (h : processRow platform targetList header index modelColumns acc row = .ok after)
    (hInv : acc.Inv targetList) : after.Inv targetList := by
  obtain rfl | ⟨date, clientType, usage, messages, hType, hGrain, hUsage, hMessages, rfl⟩ :=
    processRow_cases h
  · exact hInv
  have hCases := @mem_keep_partitions acc date.format clientType usage messages
  constructor
  case paths_nodup =>
    rw [keep_paths]
    exact getOrCreatePartition_nodup hInv.paths_nodup
  case dates =>
    intro p hp
    obtain ⟨hOld, _⟩ | ⟨before, hPath, _, rfl⟩ := hCases hp
    · exact hInv.dates p hOld
    · exact ⟨date, congrArg Prod.fst hPath⟩
  case clientTypes =>
    intro p hp
    obtain ⟨hOld, _⟩ | ⟨before, hPath, _, rfl⟩ := hCases hp
    · exact hInv.clientTypes p hOld
    · rwa [show before.clientType = clientType from congrArg Prod.snd hPath]
  case usage_listed =>
    intro p hp r hr
    obtain ⟨hOld, _⟩ | ⟨before, _, hBefore, rfl⟩ := hCases hp
    · exact hInv.usage_listed p hOld r hr
    rcases List.mem_append.mp hr with hr | hr
    · rcases hBefore with hOld | rfl
      · exact hInv.usage_listed before hOld r hr
      · cases hr
    · rwa [List.mem_singleton.mp hr]
  case messages_listed =>
    intro p hp r hr
    obtain ⟨hOld, _⟩ | ⟨before, _, hBefore, rfl⟩ := hCases hp
    · exact hInv.messages_listed p hOld r hr
    rcases List.mem_append.mp hr with hr | hr
    · rcases hBefore with hOld | rfl
      · exact hInv.messages_listed before hOld r hr
      · cases hr
    · exact hMessages r hr
  case grains =>
    intro p hp r hr
    obtain ⟨hOld, _⟩ | ⟨before, hPath, hBefore, rfl⟩ := hCases hp
    · exact List.mem_cons_of_mem _ (hInv.grains p hOld r hr)
    rcases List.mem_append.mp hr with hr | hr
    · rcases hBefore with hOld | rfl
      · exact List.mem_cons_of_mem _ (hInv.grains before hOld r hr)
      · cases hr
    · rw [List.mem_singleton.mp hr, show before.date = date.format from congrArg Prod.fst hPath,
        show before.clientType = clientType from congrArg Prod.snd hPath]
      exact List.mem_cons_self
  case users_nodup =>
    intro p hp
    obtain ⟨hOld, _⟩ | ⟨before, hPath, hBefore, rfl⟩ := hCases hp
    · exact hInv.users_nodup p hOld
    rcases hBefore with hOld | rfl
    · rw [List.map_append, List.nodup_append]
      refine ⟨hInv.users_nodup before hOld, by simp, ?_⟩
      rintro user hUser other hOther rfl
      obtain ⟨r, hr, hId⟩ := List.mem_map.mp hUser
      have hOld := hInv.grains before hOld r hr
      rw [show before.date = date.format from congrArg Prod.fst hPath,
        show before.clientType = clientType from congrArg Prod.snd hPath, hId,
        show user = usage.userId by simpa using hOther] at hOld
      exact hGrain hOld
    · simp

/-- What an accepted report gives. -/
theorem transform_inv {platform : Platform} {csvText : CsvText} {targetList : Str → Bool}
    {result : TransformResult} (h : transform platform csvText targetList = .ok result) :
    ∃ acc : Accumulator, acc.Inv targetList ∧ acc.partitions = result.partitions := by
  unfold transform at h
  simp only [bind_eq_ok] at h
  obtain ⟨⟨header, rows⟩, _, h⟩ := h
  split_ifs at h
  · exact absurd h throw_bind_ne_ok
  simp only [bind_eq_ok, pure_eq_ok] at h
  obtain ⟨⟨index, modelColumns⟩, _, _, _, acc, hAcc, rfl⟩ := h
  exact ⟨acc, foldlM_invariant _ hAcc (inv_empty targetList) fun _ _ _ => processRow_inv, rfl⟩

end KiroIngest.ReportTransform
