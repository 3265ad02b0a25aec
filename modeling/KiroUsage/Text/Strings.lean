import Mathlib.Data.List.TakeWhile

/-! Strings as the .NET library works on them: white space, ordinal comparison
that ignores case, path segments and suffixes. A string is the list of its
characters. -/
namespace Text

abbrev Str := List Char

/-- `char.IsWhiteSpace`. -/
def isWhiteSpace (c : Char) : Bool :=
  let n := c.toNat
  (9 ≤ n && n ≤ 13) || n == 0x20 || n == 0x85 || n == 0xA0 || n == 0x1680 ||
    (0x2000 ≤ n && n ≤ 0x200A) || n == 0x2028 || n == 0x2029 || n == 0x202F || n == 0x205F ||
    n == 0x3000

/-- `string.IsNullOrWhiteSpace` of a string that is not null. -/
def isBlank (s : Str) : Bool := s.all isWhiteSpace

/-- `string.IsNullOrWhiteSpace`. -/
def isNullOrWhiteSpace : Option Str → Bool
  | none => true
  | some s => isBlank s

/-- The sign of `string.Compare(…, StringComparison.OrdinalIgnoreCase)` for
ASCII strings: upper-cased characters are compared one by one, and a proper
initial segment comes first. -/
def compareOrdinalIgnoreCase : Str → Str → Ordering
  | [], [] => .eq
  | [], _ :: _ => .lt
  | _ :: _, [] => .gt
  | a :: left, b :: right =>
    (compare a.toUpper.toNat b.toUpper.toNat).then (compareOrdinalIgnoreCase left right)

/-- `EndsWith(ending, StringComparison.OrdinalIgnoreCase)` for an ASCII ending.
No character outside ASCII equals an ASCII letter in an ordinal comparison. -/
def endsWithIgnoreCase (s ending : Str) : Bool :=
  ending.length ≤ s.length &&
    (s.drop (s.length - ending.length)).map Char.toUpper == ending.map Char.toUpper

/-- `string.Equals(…, StringComparison.OrdinalIgnoreCase)` against ASCII text. -/
def equalsIgnoreCase (s ascii : Str) : Bool := s.map Char.toUpper == ascii.map Char.toUpper

/-- `StartsWith(beginning, StringComparison.OrdinalIgnoreCase)` for an ASCII
beginning. -/
def startsWithIgnoreCase (s beginning : Str) : Bool :=
  (s.take beginning.length).map Char.toUpper == beginning.map Char.toUpper

/-- `Contains(part, StringComparison.OrdinalIgnoreCase)` for an ASCII part. -/
def containsIgnoreCase (s part : Str) : Bool :=
  match s with
  | [] => startsWithIgnoreCase [] part
  | c :: rest => startsWithIgnoreCase (c :: rest) part || containsIgnoreCase rest part

/-- `TrimStart(c)`. -/
def trimStart (c : Char) (s : Str) : Str := s.dropWhile (· == c)

/-- `TrimEnd(c)`. -/
def trimEnd (c : Char) (s : Str) : Str := (s.reverse.dropWhile (· == c)).reverse

/-- `Replace(old, new, StringComparison.Ordinal)` after some characters that an
earlier occurrence has used up. -/
def replaceAfter (old new : Str) : Nat → Str → Str
  | _, [] => []
  | used + 1, _ :: rest => replaceAfter old new used rest
  | 0, c :: rest =>
    if old.isPrefixOf (c :: rest) then new ++ replaceAfter old new (old.length - 1) rest
    else c :: replaceAfter old new 0 rest

/-- `Replace(old, new, StringComparison.Ordinal)` for a text to replace that is
not empty. -/
def replace (old new s : Str) : Str := replaceAfter old new 0 s

/-- `Trim()`. -/
def trim (s : Str) : Str :=
  ((s.dropWhile isWhiteSpace).reverse.dropWhile isWhiteSpace).reverse

/-- The part after the last separator, or all of it without one. -/
def afterLast (separator : Char) (s : Str) : Str :=
  (s.reverse.takeWhile (· ≠ separator)).reverse

/-- `Path.GetFileName` on a platform whose only directory separator is a slash. -/
def getFileName (path : Str) : Str := afterLast '/' path

theorem separator_not_mem_afterLast (separator : Char) (s : Str) :
    separator ∉ afterLast separator s := by
  intro h
  have hm := List.mem_takeWhile_imp (List.mem_reverse.mp h)
  simp at hm

theorem afterLast_append {separator : Char} (before : Str) {after : Str} (h : separator ∉ after) :
    afterLast separator (before ++ separator :: after) = after := by
  have hAll : ∀ c ∈ after.reverse, (c ≠ separator : Bool) = true := by
    intro c hc
    simpa using fun he : c = separator => h (he ▸ List.mem_reverse.mp hc)
  rw [afterLast, List.reverse_append, List.reverse_cons, List.append_assoc,
    List.takeWhile_append_of_pos hAll]
  simp

theorem toUpper_of_isWhiteSpace {c : Char} (h : isWhiteSpace c = true) : c.toUpper = c := by
  delta Char.toUpper
  rw [dif_neg]
  rintro ⟨hLow, hHigh⟩
  rw [UInt32.le_iff_toNat_le] at hLow
  rw [UInt32.le_iff_toNat_le] at hHigh
  have hNat : 97 ≤ c.toNat ∧ c.toNat ≤ 122 := ⟨hLow, hHigh⟩
  simp only [isWhiteSpace, Bool.or_eq_true, Bool.and_eq_true, decide_eq_true_eq, beq_iff_eq] at h
  omega

/-- A text with a visible ending is not blank. -/
theorem isBlank_of_endsWithIgnoreCase {s ending : Str} (h : endsWithIgnoreCase s ending = true)
    (hEnding : isBlank (ending.map Char.toUpper) = false) : isBlank s = false := by
  rw [endsWithIgnoreCase, Bool.and_eq_true, beq_iff_eq] at h
  rw [← Bool.not_eq_true, isBlank, List.all_eq_true] at hEnding ⊢
  intro hBlank
  refine hEnding fun c hc => ?_
  rw [← h.2] at hc
  obtain ⟨d, hd, rfl⟩ := List.mem_map.mp hc
  have hSpace := hBlank d (List.mem_of_mem_drop hd)
  rwa [toUpper_of_isWhiteSpace hSpace]

end Text
