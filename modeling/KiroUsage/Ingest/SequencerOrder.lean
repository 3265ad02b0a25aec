import KiroUsage.Ingest.Reading
import KiroUsage.Ingest.Sequencers

/-! The order of event sequencers against two orders that could be meant: that
of the numbers which the strings denote, which it is, and that of S3, which
reads the strings from the left and pads the shorter one on the right. -/
namespace KiroIngest

open Text

/-- A string of hexadecimal digits, of any length and in any letter case. -/
abbrev Numeral := { s : Str // ∀ c ∈ s, isHexDigit c = true }

namespace Numeral

def value (n : Numeral) : Nat := hexValue n.val

/-- Two numerals with the same digits after some leading zeros, letter case
aside. -/
def SameDigits (left right : Numeral) : Prop :=
  ∃ (zeros zeros' : Nat) (digits digits' : Str), left.val = List.replicate zeros '0' ++ digits ∧
    right.val = List.replicate zeros' '0' ++ digits' ∧
    digits.map Char.toUpper = digits'.map Char.toUpper

/-- `left` is not above `right`. -/
def AtMost (left right : Numeral) : Prop :=
  compareSequencers left.val right.val = .ok .lt ∨ compareSequencers left.val right.val = .ok .eq

theorem compare_eq (left right : Numeral) :
    compareSequencers left.val right.val = .ok (compare left.value right.value) :=
  compareSequencers_eq left.property right.property

theorem atMost_iff {left right : Numeral} : AtMost left right ↔ left.value ≤ right.value := by
  unfold AtMost
  rw [compare_eq, Except.ok.injEq, Except.ok.injEq, compare_lt_iff_lt, compare_eq_iff_eq]
  exact le_iff_lt_or_eq.symm

end Numeral

/-- The comparison refuses exactly the strings with another character. -/
theorem compareSequencers_eq_error_iff {left right : Str} :
    (∃ error, compareSequencers left right = .error error) ↔
      ∃ c, (c ∈ left ∨ c ∈ right) ∧ isHexDigit c = false := by
  constructor
  · rintro ⟨error, h⟩
    by_contra hNone
    push Not at hNone
    have hDigit (c : Char) (hc : c ∈ left ∨ c ∈ right) : isHexDigit c = true :=
      (Bool.not_eq_false _).mp (hNone c hc)
    rw [compareSequencers_eq (fun c hc => hDigit c (Or.inl hc)) fun c hc => hDigit c (Or.inr hc)] at h
    cases h
  · rintro ⟨c, hc, hOther⟩
    have hRefused : (!left.all isHexDigit || !right.all isHexDigit) = true := by
      rw [Bool.or_eq_true, Bool.not_eq_true', Bool.not_eq_true', List.all_eq_false, List.all_eq_false]
      exact hc.imp (fun hc => ⟨c, hc, by simp [hOther]⟩) fun hc => ⟨c, hc, by simp [hOther]⟩
    exact ⟨_, if_pos hRefused⟩

theorem Numeral.sameDigits_iff {left right : Numeral} :
    SameDigits left right ↔ left.value = right.value := by
  unfold Numeral.value
  constructor
  · rintro ⟨zeros, zeros', digits, digits', hLeft, hRight, hSame⟩
    have hDigits : ∀ c ∈ digits, isHexDigit c = true := fun c hc =>
      left.property c (hLeft ▸ List.mem_append_right _ hc)
    have hDigits' : ∀ c ∈ digits', isHexDigit c = true := fun c hc =>
      right.property c (hRight ▸ List.mem_append_right _ hc)
    rw [hLeft, hRight, hexValue_zeros_append, hexValue_zeros_append, ← hexValue_map_toUpper hDigits,
      ← hexValue_map_toUpper hDigits', hSame]
  · intro h
    have hSplit (s : Str) : s = List.replicate (s.takeWhile (· == '0')).length '0' ++
        s.dropWhile (· == '0') := by
      have hZeros : s.takeWhile (· == '0') = List.replicate (s.takeWhile (· == '0')).length '0' :=
        List.eq_replicate_of_mem fun c hc => by simpa using List.mem_takeWhile_imp hc
      rw [← hZeros, List.takeWhile_append_dropWhile]
    have hHead (s : Str) : (s.dropWhile (· == '0')).head? ≠ some '0' := by
      intro hZero
      have hNot := List.head?_dropWhile_not (· == '0') s
      rw [hZero] at hNot
      simp at hNot
    refine ⟨_, _, _, _, hSplit left.val, hSplit right.val, ?_⟩
    refine map_toUpper_eq_of_hexValue_eq (fun c hc => left.property c (List.dropWhile_subset _ hc))
      (fun c hc => right.property c (List.dropWhile_subset _ hc)) (hHead _) (hHead _) ?_
    rwa [hexValue_dropWhile_zero, hexValue_dropWhile_zero]

/-- Numeric comparison: the sign is that of the numbers in base 16, which is a
total preorder, antisymmetric up to leading zeros and letter case; every other
string is refused. -/
theorem compareSequencers_numeric :
    (∀ left right : Numeral,
      compareSequencers left.val right.val = .ok (compare (hexValue left.val) (hexValue right.val))) ∧
    (∀ a b c : Numeral, a.AtMost b → b.AtMost c → a.AtMost c) ∧
    (∀ a b : Numeral, a.AtMost b ∨ b.AtMost a) ∧
    (∀ a b : Numeral, a.AtMost b ∧ b.AtMost a ↔ a.SameDigits b) ∧
    ∀ left right, (∃ error, compareSequencers left right = .error error) ↔
      ∃ c, (c ∈ left ∨ c ∈ right) ∧ isHexDigit c = false := by
  refine ⟨Numeral.compare_eq, fun a b c => ?_, fun a b => ?_, fun a b => ?_,
    fun _ _ => compareSequencers_eq_error_iff⟩
  · simp only [Numeral.atMost_iff]
    exact le_trans
  · simp only [Numeral.atMost_iff]
    exact le_total _ _
  · rw [Numeral.atMost_iff, Numeral.atMost_iff, Numeral.sameDigits_iff]
    exact le_antisymm_iff.symm

/-- S3's order of two sequencers of one object key: the shorter hexadecimal
string is padded with zeros on the right, then the strings are compared without
regard to letter case. -/
def s3Order (left right : Str) : Ordering :=
  compareOrdinalIgnoreCase (left.rightpad right.length '0') (right.rightpad left.length '0')

/-- Padding turns this pair around: the shorter string denotes the smaller
number, or the same, but no longer does with zeros behind it. -/
def Overtakes (shorter longer : Str) : Prop :=
  shorter.length < longer.length ∧ 0 < hexValue shorter ∧ hexValue shorter ≤ hexValue longer ∧
    hexValue longer ≤ hexValue shorter * 16 ^ (longer.length - shorter.length)

instance (shorter longer : Str) : Decidable (Overtakes shorter longer) :=
  inferInstanceAs (Decidable (_ ∧ _ ∧ _ ∧ _))

section S3Order

variable {left right : Str}

theorem hex_rightpad (h : ∀ c ∈ left, isHexDigit c = true) (n : Nat) :
    ∀ c ∈ left.rightpad n '0', isHexDigit c = true := by
  intro c hc
  rcases List.mem_append.mp hc with hc | hc
  · exact h c hc
  · rw [List.eq_of_mem_replicate hc]
    rfl

/-- S3 compares the numbers of the padded strings. -/
theorem s3Order_eq (hl : ∀ c ∈ left, isHexDigit c = true) (hr : ∀ c ∈ right, isHexDigit c = true) :
    s3Order left right = compare (hexValue left * 16 ^ (right.length - left.length))
      (hexValue right * 16 ^ (left.length - right.length)) := by
  have hLength :
      (left.rightpad right.length '0').length = (right.rightpad left.length '0').length := by
    simp only [List.rightpad, List.length_append, List.length_replicate]
    omega
  rw [s3Order, compare_of_length_eq hLength (hex_rightpad hl _) (hex_rightpad hr _)]
  unfold List.rightpad
  rw [hexValue_append_zeros, hexValue_append_zeros]

/-- A positive factor on the shorter side changes the order only by an overtaking. -/
theorem compare_scaled {x y scale : Nat} (hScale : 1 < scale) :
    compare (x * scale) y = compare x y ↔ ¬(0 < x ∧ x ≤ y ∧ y ≤ x * scale) := by
  rcases Nat.eq_zero_or_pos x with rfl | hPos
  · simp
  have hGrows : x < x * scale := (Nat.lt_mul_iff_one_lt_right hPos).mpr hScale
  rcases Nat.lt_or_ge y x with hBelow | hAbove
  · rw [compare_gt_iff_gt.mpr hBelow, compare_gt_iff_gt.mpr (hBelow.trans hGrows)]
    exact iff_of_true rfl fun h => absurd h.2.1 (not_le.mpr hBelow)
  rcases Nat.lt_or_ge (x * scale) y with hFar | hNear
  · rw [compare_lt_iff_lt.mpr hFar, compare_lt_iff_lt.mpr (hGrows.trans hFar)]
    exact iff_of_true rfl fun h => absurd h.2.2 (not_le.mpr hFar)
  · refine iff_of_false (fun h => ?_) (not_not.mpr ⟨hPos, hAbove, hNear⟩)
    rcases Nat.lt_or_eq_of_le hAbove with hLt | rfl
    · rw [compare_lt_iff_lt.mpr hLt, compare_lt_iff_lt] at h
      exact absurd h (not_lt.mpr hNear)
    · rw [compare_eq_iff_eq.mpr rfl, compare_eq_iff_eq] at h
      exact absurd h hGrows.ne'

/-- The two orders agree on a pair of which neither overtakes the other. -/
theorem s3Order_eq_compare_iff (hl : ∀ c ∈ left, isHexDigit c = true)
    (hr : ∀ c ∈ right, isHexDigit c = true) :
    s3Order left right = compare (hexValue left) (hexValue right) ↔
      ¬Overtakes left right ∧ ¬Overtakes right left := by
  unfold Overtakes
  rw [s3Order_eq hl hr]
  rcases Nat.lt_trichotomy left.length right.length with h | h | h
  · have hScale : 1 < 16 ^ (right.length - left.length) := Nat.one_lt_pow (by omega) (by decide)
    rw [Nat.sub_eq_zero_of_le h.le, pow_zero, Nat.mul_one, compare_scaled hScale]
    simp [h, h.le]
  · rw [h, Nat.sub_self, pow_zero, Nat.mul_one, Nat.mul_one]
    simp
  · have hScale : 1 < 16 ^ (left.length - right.length) := Nat.one_lt_pow (by omega) (by decide)
    have hSwap (x y : Nat) : compare x y = (compare y x).swap := Std.OrientedOrd.eq_swap
    rw [Nat.sub_eq_zero_of_le h.le, pow_zero, Nat.mul_one, hSwap, hSwap (hexValue left),
      Ordering.swap_inj, compare_scaled hScale]
    simp [h, h.le]

end S3Order

/-- The comparison and the staleness check follow S3's order on a pair of
sequencers if and only if neither of them overtakes the other. -/
theorem event_order_iff (left right : Str) (hl : isSequencer left = true)
    (hr : isSequencer right = true) :
    (compareSequencers left right = .ok (s3Order left right) ∧
      ∀ (plan : FaultPlan) (source : IngestSource) (w : World), source.sequencer = some left →
        w.savedSequencer source = .ok (some right) →
          Reads plan w (isStaleEventAsync source) (.ok (s3Order left right != .gt))) ↔
      ¬Overtakes left right ∧ ¬Overtakes right left := by
  have hLeft := hex_of_isSequencer hl
  have hRight := hex_of_isSequencer hr
  rw [← s3Order_eq_compare_iff hLeft hRight, compareSequencers_eq hLeft hRight, Except.ok.injEq]
  refine ⟨fun h => h.1.symm, fun h => ⟨h.symm, fun plan source w hSource hSaved => ?_⟩⟩
  have hAnswer : w.staleEvent source = .ok (s3Order left right != .gt) := by
    unfold World.staleEvent
    rw [hSource]
    dsimp only
    rw [hSaved, h]
    change isStale left (some right) = _
    rw [isStale, compareSequencers_eq hLeft hRight]
    rfl
  exact hAnswer ▸ isStaleEventAsync_reads source

theorem event_order_iff_example :
    compareSequencers ['1'] ['1', '0', '1'] = .ok (s3Order ['1'] ['1', '0', '1']) :=
  ((event_order_iff ['1'] ['1', '0', '1'] (by decide) (by decide)).mpr (by decide)).1

/-- An event that S3 orders after the saved one is rejected as stale. -/
theorem newer_event_rejected :
    s3Order ['1'] ['0', 'A'] = .gt ∧ compareSequencers ['1'] ['0', 'A'] = .ok .lt ∧
      isStale ['1'] (some ['0', 'A']) = .ok true := by
  have hCompared : compareSequencers ['1'] ['0', 'A'] = .ok .lt :=
    (compareSequencers_eq (hex_of_isSequencer (by decide)) (hex_of_isSequencer (by decide))).trans
      (congrArg Except.ok (by decide))
  refine ⟨by decide, hCompared, ?_⟩
  rw [isStale, hCompared]
  rfl

end KiroIngest
