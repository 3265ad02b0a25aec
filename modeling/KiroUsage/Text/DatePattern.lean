import KiroUsage.Text.DateOrder
import Mathlib.Data.List.SplitBy

/-! Dates in the form of a pattern. Equal characters in a row are one field: the letters
yyyy, MM and dd stand for the parts of a date with that many digits, and what is no letter
stands for itself. -/
namespace Text

/-- A field of a date pattern. -/
inductive DateField where
  | year
  | month
  | day
  | literal (text : Str)
deriving DecidableEq

/-- The parts of a date that were read, zero for those that were not. -/
structure DateParts where
  year : Nat
  month : Nat
  day : Nat

namespace DateField

/-- Letters of other fields and the characters that patterns reserve have no field here. -/
def ofRun (run : Str) : Option DateField :=
  if run = "yyyy".toList then some year
  else if run = "MM".toList then some month
  else if run = "dd".toList then some day
  else if run.any (fun c => c.isAlpha || c ∈ "'[]#\x7b\x7d".toList) then none
  else some (literal run)

def width : DateField → Nat
  | year => 4
  | month => 2
  | day => 2
  | literal text => text.length

def render (date : DateOnly) : DateField → Str
  | year => digits 4 date.year
  | month => digits 2 date.month
  | day => digits 2 date.day
  | literal text => text

def read (run : Str) (parts : DateParts) : DateField → Option DateParts
  | year => (fieldValue run).map fun value => { parts with year := value }
  | month => (fieldValue run).map fun value => { parts with month := value }
  | day => (fieldValue run).map fun value => { parts with day := value }
  | literal text => if run = text then some parts else none

end DateField

abbrev DatePattern := List DateField

namespace DatePattern

def ofText (format : Str) : Option DatePattern :=
  (format.splitBy (· == ·)).mapM DateField.ofRun

def render (pattern : DatePattern) (date : DateOnly) : Str := pattern.flatMap (DateField.render date)

/-- Every field of the pattern is read in its width, and nothing is left of the text. -/
def readParts : DatePattern → DateParts → Str → Option DateOnly
  | [], parts, text => if text = [] then DateOnly.ofNats parts.year parts.month parts.day else none
  | field :: pattern, parts, text =>
      if text.length < field.width then none
      else (field.read (text.take field.width) parts).bind fun parts =>
        readParts pattern parts (text.drop field.width)

def read (pattern : DatePattern) (text : Str) : Option DateOnly := pattern.readParts ⟨0, 0, 0⟩ text

/-- The pattern yyyy-MM-dd. -/
def iso : DatePattern := [.year, .literal ['-'], .month, .literal ['-'], .day]

theorem ofText_iso : ofText "yyyy-MM-dd".toList = some iso := by
  decide

/-- This pattern gives the texts of dates. -/
theorem render_iso (date : DateOnly) : iso.render date = date.format := by
  rw [DateOnly.format_eq]
  simp only [iso, render, DateField.render, List.flatMap_cons, List.flatMap_nil, List.append_nil,
    List.cons_append, List.nil_append]

end DatePattern

end Text
