import KiroUsage.Text.Strings
import Mathlib.Order.Compare
import Mathlib.Tactic.Ring

/-! Hexadecimal numerals of any length. Comparing two numerals without leading
zeros first by length and then digit by digit, ignoring case, is comparing the
numbers they denote. -/
namespace Text

def hexDigits : Str :=
  ['0', '1', '2', '3', '4', '5', '6', '7', '8', '9', 'a', 'b', 'c', 'd', 'e', 'f',
  'A', 'B', 'C', 'D', 'E', 'F']

/-- `Uri.IsHexDigit`. -/
def isHexDigit (c : Char) : Bool := hexDigits.contains c

def hexDigitValue (c : Char) : Nat :=
  if c.toNat < 58 then c.toNat - 48 else if c.toNat < 71 then c.toNat - 55 else c.toNat - 87

/-- The number that a string of hexadecimal digits denotes in base 16. -/
def hexValue : Str → Nat
  | [] => 0
  | c :: rest => hexDigitValue c * 16 ^ rest.length + hexValue rest

theorem hexDigitValue_lt {c : Char} (h : isHexDigit c = true) : hexDigitValue c < 16 := by
  rw [isHexDigit, List.contains_iff_mem] at h
  have hAll : hexDigits.all (fun d => hexDigitValue d < 16) = true := by decide
  exact of_decide_eq_true (List.all_eq_true.mp hAll c h)

/-- The code of an upper-cased digit grows with its value. -/
theorem toUpper_toNat {c : Char} (h : isHexDigit c = true) :
    c.toUpper.toNat = if hexDigitValue c < 10 then hexDigitValue c + 48 else hexDigitValue c + 55 := by
  rw [isHexDigit, List.contains_iff_mem] at h
  have hAll : hexDigits.all (fun d => d.toUpper.toNat =
      if hexDigitValue d < 10 then hexDigitValue d + 48 else hexDigitValue d + 55) = true := by decide
  exact of_decide_eq_true (List.all_eq_true.mp hAll c h)

theorem hexDigitValue_pos {c : Char} (h : isHexDigit c = true) (hc : c ≠ '0') :
    0 < hexDigitValue c := by
  rw [isHexDigit, List.contains_iff_mem] at h
  have hAll : hexDigits.all (fun d => d ≠ '0' → 0 < hexDigitValue d) = true := by decide
  exact of_decide_eq_true (List.all_eq_true.mp hAll c h) hc

theorem hexValue_lt {s : Str} (h : ∀ c ∈ s, isHexDigit c = true) : hexValue s < 16 ^ s.length := by
  induction s with
  | nil => simp [hexValue]
  | cons c rest ih =>
      have hDigit := hexDigitValue_lt (h c (by simp))
      have hRest := ih fun d hd => h d (by simp [hd])
      have hStep : hexDigitValue c * 16 ^ rest.length + 16 ^ rest.length ≤ 16 * 16 ^ rest.length := by
        calc
          _ = (hexDigitValue c + 1) * 16 ^ rest.length := by ring
          _ ≤ _ := Nat.mul_le_mul_right _ hDigit
      simp only [hexValue, List.length_cons, pow_succ]
      omega

/-- Without a leading zero, the length bounds the number from below. -/
theorem le_hexValue {c : Char} {rest : Str} (h : isHexDigit c = true) (hc : c ≠ '0') :
    16 ^ rest.length ≤ hexValue (c :: rest) := by
  have hDigit := hexDigitValue_pos h hc
  calc
    16 ^ rest.length ≤ hexDigitValue c * 16 ^ rest.length := Nat.le_mul_of_pos_left _ hDigit
    _ ≤ _ := Nat.le_add_right _ _

theorem hexValue_cons_zero (rest : Str) : hexValue ('0' :: rest) = hexValue rest := by
  simp [hexValue, show hexDigitValue '0' = 0 from rfl]

theorem hexValue_dropWhile_zero (s : Str) : hexValue (s.dropWhile (· == '0')) = hexValue s := by
  induction s with
  | nil => rfl
  | cons c rest ih =>
      by_cases hc : c = '0'
      · subst hc
        rw [hexValue_cons_zero, List.dropWhile_cons_of_pos (by simp), ih]
      · rw [List.dropWhile_cons_of_neg (by simpa using hc)]

theorem compare_digits {a b : Char} (ha : isHexDigit a = true) (hb : isHexDigit b = true) :
    compare a.toUpper.toNat b.toUpper.toNat = compare (hexDigitValue a) (hexDigitValue b) := by
  have h₁ := hexDigitValue_lt ha
  have h₂ := hexDigitValue_lt hb
  rw [toUpper_toNat ha, toUpper_toNat hb]
  rcases Nat.lt_trichotomy (hexDigitValue a) (hexDigitValue b) with h | h | h
  · rw [compare_lt_iff_lt.mpr h, compare_lt_iff_lt]
    split_ifs <;> omega
  · rw [h, compare_eq_iff_eq.mpr rfl, compare_eq_iff_eq.mpr rfl]
  · rw [compare_gt_iff_gt.mpr h, compare_gt_iff_gt]
    split_ifs <;> omega

/-- The most significant digit decides unless it is the same on both sides. -/
theorem compare_positional {a b base x y : Nat} (hx : x < base) (hy : y < base) :
    compare (a * base + x) (b * base + y) = (compare a b).then (compare x y) := by
  rcases Nat.lt_trichotomy a b with h | h | h
  · have hLt : a * base + x < b * base + y := by
      have hMul : (a + 1) * base ≤ b * base := Nat.mul_le_mul_right _ h
      have hSucc : (a + 1) * base = a * base + base := by ring
      omega
    rw [compare_lt_iff_lt.mpr hLt, compare_lt_iff_lt.mpr h]
    rfl
  · subst h
    rw [compare_eq_iff_eq.mpr rfl]
    rcases Nat.lt_trichotomy x y with h | h | h
    · rw [compare_lt_iff_lt.mpr h, compare_lt_iff_lt.mpr (by omega)]
      rfl
    · rw [h, compare_eq_iff_eq.mpr rfl, compare_eq_iff_eq.mpr rfl]
      rfl
    · rw [compare_gt_iff_gt.mpr h, compare_gt_iff_gt.mpr (by omega)]
      rfl
  · have hGt : b * base + y < a * base + x := by
      have hMul : (b + 1) * base ≤ a * base := Nat.mul_le_mul_right _ h
      have hSucc : (b + 1) * base = b * base + base := by ring
      omega
    rw [compare_gt_iff_gt.mpr hGt, compare_gt_iff_gt.mpr h]
    rfl

/-- Numerals of one length compare like strings. -/
theorem compare_of_length_eq {left right : Str} (hLength : left.length = right.length)
    (hl : ∀ c ∈ left, isHexDigit c = true) (hr : ∀ c ∈ right, isHexDigit c = true) :
    compareOrdinalIgnoreCase left right = compare (hexValue left) (hexValue right) := by
  induction left generalizing right with
  | nil =>
      cases right with
      | nil => rfl
      | cons b right => simp at hLength
  | cons a left ih =>
      cases right with
      | nil => simp at hLength
      | cons b right =>
          have hTail : left.length = right.length := by simpa using hLength
          have hl' : ∀ c ∈ left, isHexDigit c = true := fun c hc => hl c (by simp [hc])
          have hr' : ∀ c ∈ right, isHexDigit c = true := fun c hc => hr c (by simp [hc])
          have hx := hexValue_lt hl'
          rw [hTail] at hx
          rw [compareOrdinalIgnoreCase, ih hTail hl' hr',
            compare_digits (hl a (by simp)) (hr b (by simp)), hexValue, hexValue, hTail,
            compare_positional hx (hexValue_lt hr')]

/-- Two strings compare as equal when they differ in letter case only. -/
theorem compareOrdinalIgnoreCase_eq_iff {left right : Str} :
    compareOrdinalIgnoreCase left right = .eq ↔ left.map Char.toUpper = right.map Char.toUpper := by
  induction left generalizing right with
  | nil =>
      cases right with
      | nil => exact ⟨fun _ => rfl, fun _ => rfl⟩
      | cons b right => exact ⟨nofun, nofun⟩
  | cons a left ih =>
      cases right with
      | nil => exact ⟨nofun, nofun⟩
      | cons b right =>
          rw [compareOrdinalIgnoreCase, Ordering.then_eq_eq, compare_eq_iff_eq, Char.toNat_inj, ih,
            List.map_cons, List.map_cons, List.cons.injEq]

theorem hexDigitValue_toUpper {c : Char} (h : isHexDigit c = true) :
    hexDigitValue c.toUpper = hexDigitValue c := by
  rw [isHexDigit, List.contains_iff_mem] at h
  have hAll : hexDigits.all (fun d => hexDigitValue d.toUpper = hexDigitValue d) = true := by decide
  exact of_decide_eq_true (List.all_eq_true.mp hAll c h)

/-- Letter case does not matter to the number. -/
theorem hexValue_map_toUpper {s : Str} (h : ∀ c ∈ s, isHexDigit c = true) :
    hexValue (s.map Char.toUpper) = hexValue s := by
  induction s with
  | nil => rfl
  | cons c rest ih =>
      rw [List.map_cons, hexValue, hexValue, hexDigitValue_toUpper (h c (by simp)),
        ih fun d hd => h d (by simp [hd]), List.length_map]

theorem hexValue_append (s t : Str) :
    hexValue (s ++ t) = hexValue s * 16 ^ t.length + hexValue t := by
  induction s with
  | nil => simp [hexValue]
  | cons c rest ih =>
      rw [List.cons_append, hexValue, hexValue, ih, List.length_append, pow_add]
      ring

theorem hexValue_replicate_zero (k : Nat) : hexValue (List.replicate k '0') = 0 := by
  induction k with
  | zero => rfl
  | succ k ih => rw [List.replicate_succ, hexValue_cons_zero, ih]

/-- Zeros on the left change nothing, zeros on the right multiply. -/
theorem hexValue_zeros_append (k : Nat) (s : Str) :
    hexValue (List.replicate k '0' ++ s) = hexValue s := by
  rw [hexValue_append, hexValue_replicate_zero, Nat.zero_mul, Nat.zero_add]

theorem hexValue_append_zeros (s : Str) (k : Nat) :
    hexValue (s ++ List.replicate k '0') = hexValue s * 16 ^ k := by
  rw [hexValue_append, hexValue_replicate_zero, List.length_replicate, Nat.add_zero]

/-- Without leading zeros a number determines its digits, letter case aside. -/
theorem map_toUpper_eq_of_hexValue_eq {s t : Str} (hs : ∀ c ∈ s, isHexDigit c = true)
    (ht : ∀ c ∈ t, isHexDigit c = true) (hHead : s.head? ≠ some '0') (hHead' : t.head? ≠ some '0')
    (h : hexValue s = hexValue t) : s.map Char.toUpper = t.map Char.toUpper := by
  have hNotLt {s t : Str} (hs : ∀ c ∈ s, isHexDigit c = true) (ht : ∀ c ∈ t, isHexDigit c = true)
      (hHead : t.head? ≠ some '0') (h : hexValue s = hexValue t) : t.length ≤ s.length := by
    cases t with
    | nil => exact Nat.zero_le _
    | cons c rest =>
        have hLower : 16 ^ rest.length ≤ hexValue (c :: rest) :=
          le_hexValue (ht c (by simp)) fun hc => hHead (by simp [hc])
        exact (Nat.pow_lt_pow_iff_right (by decide)).mp
          (hLower.trans_lt (h ▸ hexValue_lt hs))
  have hLength : s.length = t.length :=
    le_antisymm (hNotLt ht hs hHead h.symm) (hNotLt hs ht hHead' h)
  rw [← compareOrdinalIgnoreCase_eq_iff, compare_of_length_eq hLength hs ht, compare_eq_iff_eq]
  exact h

/-- A numeral in normal form is a single zero or has no leading zero. -/
def Normal (s : Str) : Prop :=
  s = ['0'] ∨ ∃ c rest, s = c :: rest ∧ c ≠ '0'

theorem Normal.lower {s : Str} (h : Normal s) (hex : ∀ c ∈ s, isHexDigit c = true) :
    16 ^ (s.length - 1) ≤ hexValue s ∨ s = ['0'] := by
  rcases h with h | ⟨c, rest, rfl, hc⟩
  · exact Or.inr h
  · exact Or.inl (by simpa using le_hexValue (hex c (by simp)) hc)

/-- A shorter numeral in normal form denotes a smaller number. -/
theorem Normal.lt_of_length_lt {left right : Str} (hLeft : Normal left) (hRight : Normal right)
    (hl : ∀ c ∈ left, isHexDigit c = true) (hr : ∀ c ∈ right, isHexDigit c = true)
    (h : left.length < right.length) : hexValue left < hexValue right := by
  have hNonempty : 0 < left.length := by
    rcases hLeft with rfl | ⟨c, rest, rfl, _⟩ <;> simp
  rcases hRight.lower hr with hLower | rfl
  · calc
      hexValue left < 16 ^ left.length := hexValue_lt hl
      _ ≤ 16 ^ (right.length - 1) := Nat.pow_le_pow_right (by omega) (by omega)
      _ ≤ hexValue right := hLower
  · simp only [List.length_singleton] at h
    omega

/-- Length first and then the digits, ignoring case, is the order of the
numbers. -/
theorem compare_normal {left right : Str} (hLeft : Normal left) (hRight : Normal right)
    (hl : ∀ c ∈ left, isHexDigit c = true) (hr : ∀ c ∈ right, isHexDigit c = true) :
    (compare left.length right.length).then (compareOrdinalIgnoreCase left right) =
      compare (hexValue left) (hexValue right) := by
  rcases Nat.lt_trichotomy left.length right.length with h | h | h
  · rw [compare_lt_iff_lt.mpr h, compare_lt_iff_lt.mpr (hLeft.lt_of_length_lt hRight hl hr h)]
    rfl
  · rw [compare_eq_iff_eq.mpr h, ← compare_of_length_eq h hl hr]
    rfl
  · rw [compare_gt_iff_gt.mpr h, compare_gt_iff_gt.mpr (hRight.lt_of_length_lt hLeft hr hl h)]
    rfl

end Text
