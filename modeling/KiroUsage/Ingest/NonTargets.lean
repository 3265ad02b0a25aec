import KiroUsage.Ingest.Reference

/-! Rows of users outside the Target List do not interfere: whether a report is
accepted, and its facts, depend on the header and the kept rows only. -/
namespace KiroIngest.ReportTransform

open Text Fallible

/-- What a result says apart from the number of rows read. -/
def facts (result : TransformResult) : List FactPartition × Nat :=
  (result.partitions, result.rowsKept)

/-- The rows of a report that a Target List keeps. -/
def keptRows (targetList : Str → Bool) (header : List Str) (rows : List (List Str)) :
    List (List Str) :=
  rows.filter fun row => targetList (valueOf header row colUserEmail)

section

variable {platform : Platform} {first second : CsvText} {header : List Str}
  {rows rows' : List (List Str)} {targetList targetList' : Str → Bool}

/-- The facts of a report whose rows all have an email are those of its kept rows. -/
theorem facts_eq_some_iff (hParse : Csv.parse first = .ok (header, rows))
    (hRows : ∀ row ∈ rows, row.length = header.length ∧
      isBlank (valueOf header row colUserEmail) = false)
    (found : List FactPartition × Nat) :
    (transform platform first targetList).toOption.map facts = some found ↔
      HeaderAccepted header ∧ ∃ targets,
        List.Forall₂ (Reads platform header) (keptRows targetList header rows) targets ∧
          (targets.map TargetRow.grain).Nodup ∧ found = (partitionsOf targets, targets.length) := by
  have hAccepted (result : TransformResult) :
      (transform platform first targetList).toOption = some result ↔
        transform platform first targetList = .ok result := by
    cases transform platform first targetList with
    | error error => exact ⟨nofun, nofun⟩
    | ok accepted => simp [Except.toOption]
  simp only [Option.map_eq_some_iff, hAccepted, transform_eq_ok_iff hParse]
  constructor
  · rintro ⟨_, ⟨hHeader, _, targets, hReads, hGrains, rfl⟩, rfl⟩
    exact ⟨hHeader, targets, hReads, hGrains, rfl⟩
  · rintro ⟨hHeader, targets, hReads, hGrains, rfl⟩
    exact ⟨_, ⟨hHeader, hRows, targets, hReads, hGrains, rfl⟩, rfl⟩

/-- Two reports with the same header and the same kept rows are both refused or
have the same facts, whatever their other rows and their Target Lists are. -/
theorem facts_of_kept_rows (hFirst : Csv.parse first = .ok (header, rows))
    (hSecond : Csv.parse second = .ok (header, rows'))
    (hRows : ∀ row ∈ rows, row.length = header.length ∧
      isBlank (valueOf header row colUserEmail) = false)
    (hRows' : ∀ row ∈ rows', row.length = header.length ∧
      isBlank (valueOf header row colUserEmail) = false)
    (hKept : keptRows targetList header rows = keptRows targetList' header rows') :
    (transform platform first targetList).toOption.map facts =
      (transform platform second targetList').toOption.map facts := by
  apply Option.ext
  intro found
  rw [facts_eq_some_iff hFirst hRows, facts_eq_some_iff hSecond hRows', hKept]

/-- Taking users off the Target List is deleting their rows. -/
theorem facts_of_shorter_list (hFirst : Csv.parse first = .ok (header, rows))
    (hSecond : Csv.parse second = .ok (header, rows.filter fun row =>
      targetList' (valueOf header row colUserEmail) || !targetList (valueOf header row colUserEmail)))
    (hRows : ∀ row ∈ rows, row.length = header.length ∧
      isBlank (valueOf header row colUserEmail) = false)
    (hShorter : ∀ email, targetList' email = true → targetList email = true) :
    (transform platform first targetList').toOption.map facts =
      (transform platform second targetList).toOption.map facts := by
  have hKept : keptRows targetList' header rows = keptRows targetList header (rows.filter fun row =>
      targetList' (valueOf header row colUserEmail) || !targetList (valueOf header row colUserEmail)) := by
    unfold keptRows
    rw [List.filter_filter]
    refine List.filter_congr fun row _ => ?_
    cases hListed : targetList' (valueOf header row colUserEmail) with
    | true => simp [hShorter _ hListed]
    | false => simp
  apply Option.ext
  intro found
  rw [facts_eq_some_iff hFirst hRows, hKept, facts_eq_some_iff hSecond fun row hRow =>
    hRows row (List.mem_filter.mp hRow).1]

end

section Example

/-- The row of another user, with a count that cannot be read. -/
def strangerRow : List Str :=
  ["2026-06-20".toList, ['u'], "KIRO_CLI".toList, ['x'], ['0'], ['0'], ['0'], "false".toList, ['p'],
    ['t'], ['2'], "false".toList, ['b'], ['3']]

def strangerReport : CsvText where
  records := [some exampleHeader, some strangerRow, some exampleRow]

/-- A malformed row of another user neither rejects the report nor shows. -/
theorem facts_of_kept_rows_example :
    (transform examplePlatform strangerReport (· = ['a'])).toOption.map facts =
      (transform examplePlatform (exampleReport ['a']) fun _ => true).toOption.map facts := by
  have hFirst : Csv.parse strangerReport =
      .ok (exampleHeader, [strangerRow, exampleRow]) :=
    eq_ok_of_toOption (by decide)
  have hAll : [strangerRow, exampleRow].all (fun row => row.length = 14 ∧
      isBlank (valueOf exampleHeader row colUserEmail) = false) = true := by
    decide
  have hRows (row : List Str) (hRow : row ∈ [strangerRow, exampleRow]) := of_decide_eq_true
    (List.all_eq_true.mp hAll row hRow)
  exact facts_of_kept_rows hFirst exampleReport_parses hRows
    (fun row hRow => hRows row (List.mem_cons_of_mem _ hRow)) (by decide)

end Example

end KiroIngest.ReportTransform
