import KiroUsage.Ingest.IngestService
import KiroUsage.Ingest.TransformFacts

/-! Names and contents of the output objects. The code that builds output keys
and the code that finds them again agree: every output lies under one of the
two fact prefixes and carries the current file name of its source. -/
namespace KiroIngest

open Text Storage ReportTransform

/-- The keys of the two fact tables. -/
def isFactKey (key : Str) : Bool :=
  (usageDailyPrefix ++ ['/']).isPrefixOf key || (modelMessagesPrefix ++ ['/']).isPrefixOf key

/-- The fact objects that carry the current or the legacy name of a source. -/
def owned (source : IngestSource) (key : Str) : Bool := isFactKey key && isOutputOf source key

theorem slash_not_mem_baseName (key : Str) : '/' ∉ baseName key := by
  intro h
  unfold baseName at h
  dsimp only at h
  split_ifs at h
  · exact separator_not_mem_afterLast '/' key (List.mem_of_mem_take h)
  · exact separator_not_mem_afterLast '/' key h

theorem slash_not_mem_parquetSuffix : '/' ∉ parquetSuffix := by
  decide

theorem slash_not_mem_outputFileName (bucket key : Str) : '/' ∉ outputFileName bucket key := by
  simp only [outputFileName, List.mem_append, List.mem_cons, not_or]
  refine ⟨⟨slash_not_mem_baseName key, by decide, fun h => ?_⟩, slash_not_mem_parquetSuffix⟩
  exact slash_not_mem_toHexStringLower _ (List.mem_of_mem_take h)

theorem getFileName_outputKey (factPrefix date clientType bucket key : Str) :
    getFileName (outputKey factPrefix date clientType bucket key) = outputFileName bucket key :=
  afterLast_append _ (slash_not_mem_outputFileName bucket key)

theorem isOutputOf_outputKey (source : IngestSource) (factPrefix date clientType : Str) :
    isOutputOf source (outputKey factPrefix date clientType source.bucket source.key) = true := by
  simp [isOutputOf, getFileName_outputKey, currentFileName]

theorem isFactKey_outputKey {factPrefix : Str}
    (h : factPrefix = usageDailyPrefix ∨ factPrefix = modelMessagesPrefix)
    (date clientType bucket key : Str) :
    isFactKey (outputKey factPrefix date clientType bucket key) = true := by
  have hPrefix : (factPrefix ++ ['/']).isPrefixOf
      (outputKey factPrefix date clientType bucket key) = true := by
    rw [List.isPrefixOf_iff_prefix]
    exact ⟨"date=".toList ++ date ++ "/client_type=".toList ++ clientType ++
      '/' :: outputFileName bucket key, by simp [outputKey]⟩
  rcases h with rfl | rfl
  · simp [isFactKey, hPrefix]
  · simp [isFactKey, hPrefix]

theorem owned_outputKey {factPrefix : Str}
    (h : factPrefix = usageDailyPrefix ∨ factPrefix = modelMessagesPrefix)
    (source : IngestSource) (date clientType : Str) :
    owned source (outputKey factPrefix date clientType source.bucket source.key) = true := by
  rw [owned, isFactKey_outputKey h, isOutputOf_outputKey]
  rfl

/-- State documents are no fact objects. -/
theorem isFactKey_stateKey (source : IngestSource) : isFactKey (stateKey source) = false := rfl

theorem owned_stateKey (source other : IngestSource) : owned source (stateKey other) = false := by
  rw [owned, isFactKey_stateKey]
  rfl

theorem usageDailyPrefix_ne : usageDailyPrefix ≠ modelMessagesPrefix := by
  decide

/-- Among the outputs of one source, with dates of one length, the key
determines the fact, the date and the client type. -/
theorem outputKey_injective {factPrefix factPrefix' date date' clientType clientType' bucket key : Str}
    (hFact : factPrefix = usageDailyPrefix ∨ factPrefix = modelMessagesPrefix)
    (hFact' : factPrefix' = usageDailyPrefix ∨ factPrefix' = modelMessagesPrefix)
    (hLength : date.length = date'.length)
    (h : outputKey factPrefix date clientType bucket key =
      outputKey factPrefix' date' clientType' bucket key) :
    factPrefix = factPrefix' ∧ (date, clientType) = (date', clientType') := by
  have hPath := List.append_cancel_right h
  simp only [List.append_assoc] at hPath
  have hSame : factPrefix = factPrefix' := by
    have hHead := congrArg List.head? hPath
    rcases hFact with rfl | rfl <;> rcases hFact' with rfl | rfl
    · rfl
    · change some 'u' = some 'm' at hHead
      simp at hHead
    · change some 'm' = some 'u' at hHead
      simp at hHead
    · rfl
  subst hSame
  have hRest := List.append_cancel_left (List.append_cancel_left hPath)
  obtain ⟨hDate, hType⟩ := List.append_inj hRest hLength
  exact ⟨rfl, by rw [hDate, List.append_cancel_left hType]⟩

theorem mem_partitionOutputs {source : IngestSource} {p : FactPartition}
    {output : Str × ObjectBody} :
    output ∈ partitionOutputs source p ↔
      output = (outputKey usageDailyPrefix p.date p.clientType source.bucket source.key,
        .usageDaily p.usageDaily) ∨
      (p.modelMessages ≠ [] ∧
        output = (outputKey modelMessagesPrefix p.date p.clientType source.bucket source.key,
          .modelMessages p.modelMessages)) := by
  simp only [partitionOutputs, List.mem_cons]
  by_cases h : p.modelMessages = []
  · simp [h]
  · simp [h, List.length_pos_iff]

/-- The outputs, partition by partition. -/
theorem mem_prepareOutputs {source : IngestSource} {result : TransformResult}
    {output : Str × ObjectBody} :
    output ∈ prepareOutputs source result ↔ ∃ p ∈ result.partitions,
      output = (outputKey usageDailyPrefix p.date p.clientType source.bucket source.key,
        .usageDaily p.usageDaily) ∨
      (p.modelMessages ≠ [] ∧
        output = (outputKey modelMessagesPrefix p.date p.clientType source.bucket source.key,
          .modelMessages p.modelMessages)) := by
  simp only [prepareOutputs, List.mem_flatMap, mem_partitionOutputs]

/-- Every output is owned by its source. -/
theorem owned_of_mem_prepareOutputs {source : IngestSource} {result : TransformResult} :
    ∀ key ∈ (prepareOutputs source result).map Prod.fst, owned source key = true := by
  intro key hKey
  obtain ⟨output, hOutput, rfl⟩ := List.mem_map.mp hKey
  obtain ⟨p, _, rfl | ⟨_, rfl⟩⟩ := mem_prepareOutputs.mp hOutput
  · exact owned_outputKey (Or.inl rfl) source _ _
  · exact owned_outputKey (Or.inr rfl) source _ _

/-- Every output carries the current name of its source. -/
theorem getFileName_of_mem {source : IngestSource} {result : TransformResult}
    {output : Str × ObjectBody} (h : output ∈ prepareOutputs source result) :
    getFileName output.1 = currentFileName source := by
  obtain ⟨p, _, rfl | ⟨_, rfl⟩⟩ := mem_prepareOutputs.mp h
  · exact getFileName_outputKey _ _ _ _ _
  · exact getFileName_outputKey _ _ _ _ _

section Accepted

variable {platform : Platform} {csvText : CsvText} {targetList : Str → Bool}
  {result : TransformResult}

theorem partition_date_length (h : transform platform csvText targetList = .ok result)
    {p : FactPartition} (hp : p ∈ result.partitions) : p.date.length = 10 := by
  obtain ⟨acc, hInv, hEq⟩ := transform_inv h
  obtain ⟨date, hDate⟩ := hInv.dates p (hEq ▸ hp)
  rw [hDate, DateOnly.format_length]

/-- No output key of an accepted report occurs twice. -/
theorem prepareOutputs_nodup (h : transform platform csvText targetList = .ok result)
    (source : IngestSource) : ((prepareOutputs source result).map Prod.fst).Nodup := by
  obtain ⟨acc, hInv, hEq⟩ := transform_inv h
  have hPaths := hInv.paths_nodup
  rw [hEq] at hPaths
  have hKeys {p q : FactPartition} (hp : p ∈ result.partitions) (hq : q ∈ result.partitions)
      {key : Str} (hpKey : key ∈ (partitionOutputs source p).map Prod.fst)
      (hqKey : key ∈ (partitionOutputs source q).map Prod.fst) : p.path = q.path := by
    obtain ⟨output, hOutput, rfl⟩ := List.mem_map.mp hpKey
    obtain ⟨other, hOther, hEqKey⟩ := List.mem_map.mp hqKey
    have hLength : q.date.length = p.date.length := by
      rw [partition_date_length h hp, partition_date_length h hq]
    have hFact : ∃ fact fact', (fact = usageDailyPrefix ∨ fact = modelMessagesPrefix) ∧
        (fact' = usageDailyPrefix ∨ fact' = modelMessagesPrefix) ∧
        outputKey fact q.date q.clientType source.bucket source.key =
          outputKey fact' p.date p.clientType source.bucket source.key := by
      rcases mem_partitionOutputs.mp hOutput with rfl | ⟨_, rfl⟩ <;>
        rcases mem_partitionOutputs.mp hOther with rfl | ⟨_, rfl⟩
      · exact ⟨_, _, Or.inl rfl, Or.inl rfl, hEqKey⟩
      · exact ⟨_, _, Or.inr rfl, Or.inl rfl, hEqKey⟩
      · exact ⟨_, _, Or.inl rfl, Or.inr rfl, hEqKey⟩
      · exact ⟨_, _, Or.inr rfl, Or.inr rfl, hEqKey⟩
    obtain ⟨fact, fact', hf, hf', hEqual⟩ := hFact
    exact (outputKey_injective hf hf' hLength hEqual).2.symm
  rw [prepareOutputs, List.map_flatMap, List.nodup_flatMap]
  constructor
  · intro p hp
    unfold partitionOutputs
    split_ifs
    · simp only [List.map_cons, List.map_nil, List.nodup_cons, List.mem_singleton, List.not_mem_nil,
        not_false_eq_true, List.nodup_nil, and_true]
      exact fun he => usageDailyPrefix_ne
        (outputKey_injective (Or.inl rfl) (Or.inr rfl) rfl he).1
    · simp
  · refine (List.pairwise_map.mp hPaths).imp_of_mem fun hp hq hne => ?_
    exact fun key hpKey hqKey => hne (hKeys hp hq hpKey hqKey)

/-- Every row of every output belongs to the Target List. -/
theorem prepareOutputs_listed (h : transform platform csvText targetList = .ok result)
    {source : IngestSource} {output : Str × ObjectBody}
    (hOutput : output ∈ prepareOutputs source result) :
    ∀ email ∈ output.2.emails, targetList email = true := by
  obtain ⟨acc, hInv, hEq⟩ := transform_inv h
  obtain ⟨p, hp, rfl | ⟨_, rfl⟩⟩ := mem_prepareOutputs.mp hOutput
  · intro email hEmail
    obtain ⟨r, hr, rfl⟩ := List.mem_map.mp hEmail
    exact hInv.usage_listed p (hEq ▸ hp) r hr
  · intro email hEmail
    obtain ⟨r, hr, rfl⟩ := List.mem_map.mp hEmail
    exact hInv.messages_listed p (hEq ▸ hp) r hr

end Accepted

end KiroIngest
