import KiroUsage.Text.Strings
import Mathlib.Tactic.IntervalCases

/-! Calendar dates in the form yyyy-MM-dd. -/
namespace Text

def isLeapYear (year : Nat) : Bool :=
  year % 4 == 0 && (year % 100 != 0 || year % 400 == 0)

def daysInMonth (year month : Nat) : Nat :=
  if month = 2 then (if isLeapYear year then 29 else 28)
  else if month = 4 ∨ month = 6 ∨ month = 9 ∨ month = 11 then 30 else 31

/-- `DateOnly`: a date of the Gregorian calendar in the years 1 to 9999. -/
structure DateOnly where
  year : Nat
  month : Nat
  day : Nat
  year_valid : 1 ≤ year ∧ year ≤ 9999
  month_valid : 1 ≤ month ∧ month ≤ 12
  day_valid : 1 ≤ day ∧ day ≤ daysInMonth year month
deriving DecidableEq

namespace DateOnly

/-- Dates in calendar order. -/
def rank (date : DateOnly) : Nat := (date.year * 13 + date.month) * 32 + date.day

instance : LE DateOnly := ⟨fun a b => a.rank ≤ b.rank⟩
instance : LT DateOnly := ⟨fun a b => a.rank < b.rank⟩
instance (a b : DateOnly) : Decidable (a ≤ b) := inferInstanceAs (Decidable (a.rank ≤ b.rank))
instance (a b : DateOnly) : Decidable (a < b) := inferInstanceAs (Decidable (a.rank < b.rank))

def ofNats (year month day : Nat) : Option DateOnly :=
  if h : (1 ≤ year ∧ year ≤ 9999) ∧ (1 ≤ month ∧ month ≤ 12) ∧
      (1 ≤ day ∧ day ≤ daysInMonth year month) then
    some ⟨year, month, day, h.1, h.2.1, h.2.2⟩
  else none

end DateOnly

def digit? (c : Char) : Option Nat :=
  if '0' ≤ c ∧ c ≤ '9' then some (c.toNat - 48) else none

def digitChar (n : Nat) : Char := Char.ofNat (48 + n)

/-- The number that a fixed field of decimal digits denotes. -/
def fieldValue : Str → Option Nat :=
  List.foldl (fun value c => do return (← value) * 10 + (← digit? c)) (some 0)

namespace DateOnly

/-- `DateOnly.TryParseExact(s, "yyyy-MM-dd", InvariantCulture, None)`. -/
def tryParseExact : Str → Option DateOnly
  | [y₁, y₂, y₃, y₄, '-', m₁, m₂, '-', d₁, d₂] => do
    ofNats (← fieldValue [y₁, y₂, y₃, y₄]) (← fieldValue [m₁, m₂]) (← fieldValue [d₁, d₂])
  | _ => none

/-- `ToString("yyyy-MM-dd", InvariantCulture)`. -/
def format (date : DateOnly) : Str :=
  [digitChar (date.year / 1000 % 10), digitChar (date.year / 100 % 10),
    digitChar (date.year / 10 % 10), digitChar (date.year % 10), '-',
    digitChar (date.month / 10 % 10), digitChar (date.month % 10), '-',
    digitChar (date.day / 10 % 10), digitChar (date.day % 10)]

@[simp] theorem format_length (date : DateOnly) : date.format.length = 10 := rfl

end DateOnly

theorem digit?_digitChar {n : Nat} (h : n < 10) : digit? (digitChar n) = some n := by
  interval_cases n <;> decide

namespace DateOnly

theorem ofNats_self (date : DateOnly) : ofNats date.year date.month date.day = some date := by
  rw [ofNats, dif_pos ⟨date.year_valid, date.month_valid, date.day_valid⟩]

/-- A date is read back from its own text. -/
theorem tryParseExact_format (date : DateOnly) : tryParseExact date.format = some date := by
  have hYear := date.year_valid
  have hMonth := date.month_valid
  have hDay : date.day ≤ 31 := by
    have h := date.day_valid.2
    unfold daysInMonth at h
    split_ifs at h <;> omega
  have h₁ : (((date.year / 1000 % 10) * 10 + date.year / 100 % 10) * 10 + date.year / 10 % 10) * 10 +
      date.year % 10 = date.year := by omega
  have h₂ : (date.month / 10 % 10) * 10 + date.month % 10 = date.month := by omega
  have h₃ : (date.day / 10 % 10) * 10 + date.day % 10 = date.day := by omega
  simp [format, tryParseExact, fieldValue, digit?_digitChar, Nat.mod_lt, h₁, h₂, h₃, ofNats_self]

theorem format_injective {a b : DateOnly} (h : a.format = b.format) : a = b := by
  have hParse := congrArg tryParseExact h
  rw [tryParseExact_format, tryParseExact_format] at hParse
  exact Option.some.inj hParse

end DateOnly

end Text
