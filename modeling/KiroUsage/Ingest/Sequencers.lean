import KiroUsage.Ingest.IngestService

/-! The order of event sequencers. Whatever their letter case and leading
zeros, two sequencers compare like the hexadecimal numbers they denote. -/
namespace KiroIngest

open Text

theorem normalizeSequencer_normal (sequencer : Str) : Normal (normalizeSequencer sequencer) := by
  unfold normalizeSequencer
  dsimp only
  split_ifs with hEmpty
  · exact Or.inl rfl
  · cases hTrim : sequencer.dropWhile (· == '0') with
    | nil => simp [hTrim] at hEmpty
    | cons c rest =>
        have hHead := List.head?_dropWhile_not (· == '0') sequencer
        rw [hTrim] at hHead
        exact Or.inr ⟨c, rest, rfl, by simpa using hHead⟩

theorem hexValue_normalizeSequencer (sequencer : Str) :
    hexValue (normalizeSequencer sequencer) = hexValue sequencer := by
  rw [← hexValue_dropWhile_zero sequencer]
  unfold normalizeSequencer
  dsimp only
  split_ifs with hEmpty
  · rw [List.length_eq_zero_iff.mp hEmpty]
    rfl
  · rfl

theorem hex_normalizeSequencer {sequencer : Str} (h : ∀ c ∈ sequencer, isHexDigit c = true) :
    ∀ c ∈ normalizeSequencer sequencer, isHexDigit c = true := by
  unfold normalizeSequencer
  dsimp only
  split_ifs
  · intro c hc
    rw [List.mem_singleton.mp hc]
    rfl
  · exact fun c hc => h c (List.dropWhile_subset _ hc)

/-- `CompareSequencers` compares the numbers. -/
theorem compareSequencers_eq {left right : Str} (hl : ∀ c ∈ left, isHexDigit c = true)
    (hr : ∀ c ∈ right, isHexDigit c = true) :
    compareSequencers left right = .ok (compare (hexValue left) (hexValue right)) := by
  have hHex : (!left.all isHexDigit || !right.all isHexDigit) = false := by
    simp [List.all_eq_true.mpr hl, List.all_eq_true.mpr hr]
  rw [compareSequencers, hHex, ← hexValue_normalizeSequencer left, ← hexValue_normalizeSequencer right,
    ← compare_normal (normalizeSequencer_normal left) (normalizeSequencer_normal right)
      (hex_normalizeSequencer hl) (hex_normalizeSequencer hr)]
  cases h : compare (normalizeSequencer left).length (normalizeSequencer right).length <;>
    simp [h, Ordering.then]

theorem hex_of_isSequencer {sequencer : Str} (h : isSequencer sequencer = true) :
    ∀ c ∈ sequencer, isHexDigit c = true := by
  simp only [isSequencer, Bool.and_eq_true, List.all_eq_true] at h
  exact h.2

/-- An event is stale when its number is not above the saved one. -/
theorem isStale_some {sequencer saved : Str} (h : isSequencer sequencer = true)
    (hSaved : ∀ c ∈ saved, isHexDigit c = true) :
    isStale sequencer (some saved) = .ok (decide (hexValue sequencer ≤ hexValue saved)) := by
  rw [isStale, compareSequencers_eq (hex_of_isSequencer h) hSaved]
  change Except.ok _ = Except.ok _
  congr 1
  rcases Nat.lt_trichotomy (hexValue sequencer) (hexValue saved) with hLt | hEq | hGt
  · rw [compare_lt_iff_lt.mpr hLt]
    simp [hLt.le]
  · rw [compare_eq_iff_eq.mpr hEq]
    simp [hEq]
  · rw [compare_gt_iff_gt.mpr hGt]
    simp [hGt]

/-- A saved text that can be compared is hexadecimal. -/
theorem hex_of_isStale {sequencer saved : Str} {stale : Bool}
    (h : isStale sequencer (some saved) = .ok stale) : ∀ c ∈ saved, isHexDigit c = true := by
  by_contra hNot
  have hRefused : compareSequencers sequencer saved =
      .error (.invalidData "S3 event sequencer must be hexadecimal".toList) := by
    have hSome : saved.all isHexDigit = false := by
      rw [← Bool.not_eq_true, List.all_eq_true]
      exact hNot
    rw [compareSequencers, hSome, Bool.not_false, Bool.or_true, if_pos rfl]
  rw [isStale, hRefused] at h
  cases h

/-- No sequencer above a fresh one is stale. -/
theorem isStale_mono {left right : Str} {saved : Option Str} (hLeft : isSequencer left = true)
    (hRight : isSequencer right = true) (hLe : hexValue left ≤ hexValue right)
    (h : isStale left saved = .ok false) : isStale right saved = .ok false := by
  cases saved with
  | none => rfl
  | some saved =>
      have hSaved := hex_of_isStale h
      rw [isStale_some hLeft hSaved] at h
      rw [isStale_some hRight hSaved]
      have hFresh : hexValue saved < hexValue left := by simpa using h
      simpa using hFresh.trans_le hLe

end KiroIngest
