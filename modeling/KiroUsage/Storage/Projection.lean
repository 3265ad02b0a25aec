import Mathlib.Data.List.Basic

/-! Partition projection. The locations of a table's partitions are not
registered but computed: a template is expanded with the column values of every
projected partition. -/
namespace Storage

/-- Expand a template in which `${name}` stands for the value of a column. The
second argument is the name of a placeholder that is still being read. -/
def expand (value : List Char → List Char) : List Char → Option (List Char) → List Char
  | [], _ => []
  | '$' :: '{' :: rest, none => expand value rest (some [])
  | c :: rest, none => c :: expand value rest none
  | '}' :: rest, some name => value name ++ expand value rest none
  | c :: rest, some name => expand value rest (some (name ++ [c]))

section Expansion

variable {value : List Char → List Char}

theorem expand_literal {literal : List Char} (h : '$' ∉ literal) (rest : List Char) :
    expand value (literal ++ rest) none = literal ++ expand value rest none := by
  induction literal with
  | nil => rfl
  | cons c literal ih =>
      simp only [List.mem_cons, not_or] at h
      have hLiteral : ∀ tail, c = '$' → literal ++ rest = '{' :: tail → False :=
        fun _ hc _ => h.1 hc.symm
      rw [List.cons_append, List.cons_append, expand, ih h.2]
      exact hLiteral

theorem expand_name {name : List Char} (h : '}' ∉ name) (done rest : List Char) :
    expand value (name ++ '}' :: rest) (some done) =
      value (done ++ name) ++ expand value rest none := by
  induction name generalizing done with
  | nil => simp [expand]
  | cons c name ih =>
      simp only [List.mem_cons, not_or] at h
      rw [List.cons_append, expand, ih h.2]
      · simp
      · exact fun hc => h.1 hc.symm

/-- A placeholder gives the value of its column. -/
theorem expand_placeholder {name : List Char} (h : '}' ∉ name) (rest : List Char) :
    expand value ('$' :: '{' :: (name ++ '}' :: rest)) none =
      value name ++ expand value rest none :=
  expand_name h [] rest

end Expansion

/-- A table's template, its projected partitions, and the text of each column
of a partition. -/
structure Projection (Partition : Type) where
  template : List Char
  projected : Partition → Prop
  column : Partition → List Char → List Char

namespace Projection

variable {Partition : Type} (p : Projection Partition)

def location (partition : Partition) : List Char := expand (p.column partition) p.template none

/-- A query of the partition reads the object at this address. -/
def Locates (address : List Char) (partition : Partition) : Prop :=
  p.projected partition ∧ p.location partition ++ ['/'] <+: address

end Projection

end Storage
