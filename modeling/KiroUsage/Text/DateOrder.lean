import KiroUsage.Text.Calendar
import Mathlib.Data.List.Induction
import Mathlib.Data.List.Lex

/-! Dates compared as texts. A text in the form yyyy-MM-dd is read as a date only if it
is the text of that date, and such texts are in the order of their dates. -/
namespace Text

/-- Texts whose first parts are equally long are compared part by part. -/
theorem append_lt_append_iff {a b c d : Str} (h : a.length = c.length) :
    a ++ b < c ++ d ↔ a < c ∨ (a = c ∧ b < d) := by
  induction a generalizing c with
  | nil =>
      obtain rfl : c = [] := List.length_eq_zero_iff.mp h.symm
      simp
  | cons x a ih =>
      cases c with
      | nil => cases h
      | cons y c =>
          have hTail : a.length = c.length := Nat.succ.inj h
          simp only [List.cons_append, List.cons_lt_cons_iff, ih hTail, List.cons.injEq]
          tauto

theorem digitChar_lt_iff {m n : Nat} (hm : m < 10) (hn : n < 10) :
    digitChar m < digitChar n ↔ m < n := by
  interval_cases m <;> interval_cases n <;> decide

theorem digitChar_inj {m n : Nat} (hm : m < 10) (hn : n < 10) (h : digitChar m = digitChar n) :
    m = n := by
  have hBoth := (digit?_digitChar hm).symm.trans ((congrArg digit? h).trans (digit?_digitChar hn))
  exact Option.some.inj hBoth

theorem digit?_eq_some {c : Char} {n : Nat} (h : digit? c = some n) : n < 10 ∧ c = digitChar n := by
  unfold digit? at h
  split_ifs at h with hRange
  have hLow : 48 ≤ c.toNat := hRange.1
  have hHigh : c.toNat ≤ 57 := hRange.2
  obtain rfl := Option.some.inj h
  refine ⟨by omega, ?_⟩
  rw [digitChar, show 48 + (c.toNat - 48) = c.toNat by omega, Char.ofNat_toNat]

/-- The last decimal digits of a number. -/
def digits : Nat → Nat → Str
  | 0, _ => []
  | width + 1, n => digits width (n / 10) ++ [digitChar (n % 10)]

@[simp] theorem digits_length (width n : Nat) : (digits width n).length = width := by
  induction width generalizing n with
  | zero => rfl
  | succ width ih => rw [digits, List.length_append, ih, List.length_singleton]

theorem digits_injective {width m n : Nat} (hm : m < 10 ^ width) (hn : n < 10 ^ width)
    (h : digits width m = digits width n) : m = n := by
  induction width generalizing m n with
  | zero => omega
  | succ width ih =>
      obtain ⟨hInit, hLast⟩ := List.append_inj h (by simp)
      have hTens := ih (by omega) (by omega) hInit
      have hOnes := digitChar_inj (Nat.mod_lt m (by decide)) (Nat.mod_lt n (by decide))
        (List.singleton_inj.mp hLast)
      omega

/-- Numbers with the same number of digits are in the order of these. -/
theorem digits_lt_iff {width m n : Nat} (hm : m < 10 ^ width) (hn : n < 10 ^ width) :
    digits width m < digits width n ↔ m < n := by
  induction width generalizing m n with
  | zero => simp [digits]; omega
  | succ width ih =>
      have hTens : m / 10 < 10 ^ width ∧ n / 10 < 10 ^ width := by omega
      have hOnes : ([digitChar (m % 10)] : Str) < [digitChar (n % 10)] ↔ m % 10 < n % 10 := by
        rw [List.cons_lt_cons_iff,
          digitChar_lt_iff (Nat.mod_lt m (by decide)) (Nat.mod_lt n (by decide))]
        simp
      rw [digits, digits, append_lt_append_iff (by simp), ih hTens.1 hTens.2, hOnes]
      constructor
      · rintro (hLess | ⟨hSame, hLess⟩)
        · omega
        · have hEqual := digits_injective hTens.1 hTens.2 hSame
          omega
      · intro hLess
        by_cases hSame : m / 10 = n / 10
        · exact Or.inr ⟨by rw [hSame], by omega⟩
        · exact Or.inl (by omega)

/-- A field with a value consists of the digits of that value. -/
theorem digits_of_fieldValue {field : Str} {n : Nat} (h : fieldValue field = some n) :
    n < 10 ^ field.length ∧ field = digits field.length n := by
  induction field using List.reverseRecOn generalizing n with
  | nil =>
      cases h
      exact ⟨Nat.one_pos, rfl⟩
  | append_singleton field c ih =>
      rw [fieldValue, List.foldl_append] at h
      obtain ⟨tens, hTens, hRest⟩ := Option.bind_eq_some_iff.mp h
      obtain ⟨ones, hOnes, hValue⟩ := Option.bind_eq_some_iff.mp hRest
      obtain ⟨hBound, hField⟩ := ih hTens
      obtain ⟨hDigit, rfl⟩ := digit?_eq_some hOnes
      obtain rfl : tens * 10 + ones = n := Option.some.inj hValue
      have hDiv : (tens * 10 + ones) / 10 = tens := by omega
      have hMod : (tens * 10 + ones) % 10 = ones := by omega
      rw [List.length_append, List.length_singleton, Nat.pow_succ, digits, hDiv, hMod, ← hField]
      exact ⟨by omega, rfl⟩

namespace DateOnly

variable {a b date : DateOnly}

theorem day_lt (date : DateOnly) : date.day < 32 := by
  have h := date.day_valid.2
  unfold daysInMonth at h
  split_ifs at h <;> omega

theorem format_eq (date : DateOnly) :
    date.format = digits 4 date.year ++ '-' :: (digits 2 date.month ++ '-' :: digits 2 date.day) := by
  simp [format, digits, Nat.div_div_eq_div_mul]

/-- The texts of dates are in the order of the dates. -/
theorem format_lt_iff : a.format < b.format ↔ a < b := by
  have ha := And.intro a.year_valid (And.intro a.month_valid a.day_lt)
  have hb := And.intro b.year_valid (And.intro b.month_valid b.day_lt)
  have hDash {s t : Str} : '-' :: s < '-' :: t ↔ s < t := List.cons_lt_cons_self
  have hYear : digits 4 a.year < digits 4 b.year ↔ a.year < b.year :=
    digits_lt_iff (by omega) (by omega)
  have hMonth : digits 2 a.month < digits 2 b.month ↔ a.month < b.month :=
    digits_lt_iff (by omega) (by omega)
  have hDay : digits 2 a.day < digits 2 b.day ↔ a.day < b.day := digits_lt_iff (by omega) (by omega)
  have hYears : digits 4 a.year = digits 4 b.year ↔ a.year = b.year :=
    ⟨digits_injective (by omega) (by omega), congrArg _⟩
  have hMonths : digits 2 a.month = digits 2 b.month ↔ a.month = b.month :=
    ⟨digits_injective (by omega) (by omega), congrArg _⟩
  have hRank : a < b ↔ a.rank < b.rank := Iff.rfl
  rw [format_eq, format_eq, append_lt_append_iff (by simp), hDash, append_lt_append_iff (by simp),
    hDash, hYear, hMonth, hDay, hYears, hMonths, hRank]
  unfold rank
  omega

theorem ofNats_eq_some {year month day : Nat} (h : ofNats year month day = some date) :
    date.year = year ∧ date.month = month ∧ date.day = day := by
  unfold ofNats at h
  split_ifs at h
  cases h
  exact ⟨rfl, rfl, rfl⟩

/-- Only the text of a date is read as that date. -/
theorem format_of_tryParseExact {text : Str} (h : tryParseExact text = some date) :
    date.format = text := by
  unfold tryParseExact at h
  split at h
  · obtain ⟨year, hYear, h⟩ := Option.bind_eq_some_iff.mp h
    obtain ⟨month, hMonth, h⟩ := Option.bind_eq_some_iff.mp h
    obtain ⟨day, hDay, h⟩ := Option.bind_eq_some_iff.mp h
    obtain ⟨rfl, rfl, rfl⟩ := ofNats_eq_some h
    have hFields := congrArg₂ (· ++ '-' :: ·) (digits_of_fieldValue hYear).2
      (congrArg₂ (· ++ '-' :: ·) (digits_of_fieldValue hMonth).2 (digits_of_fieldValue hDay).2)
    rw [format_eq]
    exact hFields.symm
  · cases h

/-- Texts of dates are in the order of their dates. -/
theorem lt_iff_of_tryParseExact {text text' : Str} (ha : tryParseExact text = some a)
    (hb : tryParseExact text' = some b) : text < text' ↔ a < b := by
  rw [← format_of_tryParseExact ha, ← format_of_tryParseExact hb, format_lt_iff]

end DateOnly

end Text
