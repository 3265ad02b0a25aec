import Mathlib.Data.List.Forall2
import Mathlib.Data.List.Nodup
import Mathlib.Data.List.Pairwise
import Mathlib.Algebra.BigOperators.Group.List.Basic
import Mathlib.Algebra.Ring.Int.Defs

/-! Lists that are read off other lists: element by element under a relation,
by an optional image, or by the one element with a key. -/
namespace Tables

section Related

variable {α β : Type} {R : α → β → Prop}

/-- A relation that determines its right side relates a list to one list only. -/
theorem forall₂_iff_map {g : α → β} (h : ∀ a b, R a b → b = g a)
    {xs : List α} {ys : List β} :
    List.Forall₂ R xs ys ↔ (∀ a ∈ xs, R a (g a)) ∧ ys = xs.map g := by
  induction xs generalizing ys with
  | nil => simp [List.forall₂_nil_left_iff]
  | cons a xs ih =>
      rw [List.forall₂_cons_left_iff, List.forall_mem_cons, List.map_cons]
      constructor
      · rintro ⟨b, rest, hFirst, hRest, rfl⟩
        obtain ⟨hAll, rfl⟩ := ih.mp hRest
        rw [← h a b hFirst]
        exact ⟨⟨hFirst, hAll⟩, rfl⟩
      · rintro ⟨⟨hFirst, hAll⟩, rfl⟩
        exact ⟨g a, xs.map g, hFirst, ih.mpr ⟨hAll, rfl⟩, rfl⟩

/-- Related lists meet the same requirements. -/
theorem forall_of_forall₂ {P : α → Prop} {Q : β → Prop}
    {xs : List α} {ys : List β} (h : List.Forall₂ R xs ys)
    (hSame : ∀ a ∈ xs, ∀ b, R a b → (P a ↔ Q b)) : (∀ a ∈ xs, P a) ↔ ∀ b ∈ ys, Q b := by
  induction h with
  | nil => simp
  | @cons a b xs ys hFirst _ ih =>
      rw [List.forall_mem_cons, List.forall_mem_cons, hSame a List.mem_cons_self b hFirst,
        ih fun a ha => hSame a (List.mem_cons_of_mem _ ha)]

theorem exists_of_forall₂ {xs : List α} {ys : List β}
    (h : List.Forall₂ R xs ys) {a : α} (ha : a ∈ xs) : ∃ b ∈ ys, R a b := by
  induction h with
  | nil => cases ha
  | @cons first b xs ys hFirst _ ih =>
      rcases List.mem_cons.mp ha with rfl | ha
      · exact ⟨b, List.mem_cons_self, hFirst⟩
      · obtain ⟨other, hOther, hRelated⟩ := ih ha
        exact ⟨other, List.mem_cons_of_mem _ hOther, hRelated⟩

/-- Related lists have the same images under functions that agree on what is related. -/
theorem map_eq_of_forall₂ {γ : Type} {f : α → γ} {g : β → γ} {xs : List α} {ys : List β}
    (h : List.Forall₂ R xs ys) (hSame : ∀ a b, R a b → f a = g b) : xs.map f = ys.map g := by
  induction h with
  | nil => rfl
  | cons hFirst _ ih => rw [List.map_cons, List.map_cons, hSame _ _ hFirst, ih]

theorem flatMap_perm_of_forall₂ {γ : Type} {f : α → List γ} {g : β → List γ} {xs : List α}
    {ys : List β} (h : List.Forall₂ R xs ys) (hSame : ∀ a b, R a b → (f a).Perm (g b)) :
    (xs.flatMap f).Perm (ys.flatMap g) := by
  induction h with
  | nil => exact .nil
  | cons hFirst _ ih =>
      rw [List.flatMap_cons, List.flatMap_cons]
      exact (hSame _ _ hFirst).append ih

theorem filter_of_forall₂ {p : α → Bool} {q : β → Bool} {xs : List α} {ys : List β}
    (h : List.Forall₂ R xs ys) (hSame : ∀ a b, R a b → p a = q b) :
    List.Forall₂ R (xs.filter p) (ys.filter q) :=
  List.rel_filter (fun a b hRelated => iff_of_eq (congrArg (· = true) (hSame a b hRelated))) h

/-- Relations that follow each other element by element do so list by list. -/
theorem forall₂_transport {γ δ : Type} {S : α → γ → Prop} {S' : β → δ → Prop} {Q : γ → δ → Prop}
    {xs : List α} {ys : List β} {zs : List γ} (h : List.Forall₂ R xs ys)
    (hReads : List.Forall₂ S xs zs) (hStep : ∀ a c b, R a b → S a c → ∃ d, S' b d ∧ Q c d) :
    ∃ ws, List.Forall₂ S' ys ws ∧ List.Forall₂ Q zs ws := by
  induction h generalizing zs with
  | nil =>
      cases hReads
      exact ⟨[], .nil, .nil⟩
  | cons hFirst _ ih =>
      cases hReads with
      | cons hRead hReads =>
          obtain ⟨d, hAfter, hRelated⟩ := hStep _ _ _ hFirst hRead
          obtain ⟨ws, hAll, hAllRelated⟩ := ih hReads
          exact ⟨d :: ws, .cons hAfter hAll, .cons hRelated hAllRelated⟩

end Related

section Images

variable {α β : Type} {f : α → Option β}

/-- Values that come from different elements of a list without repetitions differ
exactly if no value comes from two elements. -/
theorem nodup_filterMap_iff {xs : List α} (hDistinct : xs.Nodup) :
    (xs.filterMap f).Nodup ↔
      ∀ a ∈ xs, ∀ b ∈ xs, ∀ value, f a = some value → f b = some value → a = b := by
  rw [List.Nodup, List.pairwise_filterMap]
  constructor
  · intro h a ha b hb value hLeft hRight
    by_contra hNe
    have hSymm : Std.Symm fun a b => ∀ value, f a = some value → ∀ other, f b = some other →
        value ≠ other := ⟨fun a b h value hValue other hOther => (h other hOther value hValue).symm⟩
    exact h.forall ha hb hNe value hLeft value hRight rfl
  · intro h
    refine hDistinct.pairwise_of_forall_ne fun a ha b hb hNe value hValue other hOther hSame => ?_
    exact hNe (h a ha b hb value hValue (hSame ▸ hOther))

/-- The sum of the images is the sum over the elements that have one. -/
theorem sum_filterMap_eq {value : β → Int} {p : α → Bool}
    {amount : α → Int} {xs : List α}
    (hSame : ∀ x ∈ xs, ((f x).map value).getD 0 = if p x then amount x else 0) :
    ((xs.filterMap f).map value).sum = ((xs.filter p).map amount).sum := by
  induction xs with
  | nil => rfl
  | cons x xs ih =>
      rw [List.forall_mem_cons] at hSame
      have hRest := ih hSame.2
      have hFirst := hSame.1
      rw [List.filterMap_cons, List.filter_cons]
      cases hValue : f x with
      | none =>
          rw [hValue] at hFirst
          split_ifs at hFirst ⊢ with hp
          · rw [List.map_cons, List.sum_cons, ← hFirst]
            simpa using hRest
          · exact hRest
      | some b =>
          rw [hValue] at hFirst
          split_ifs at hFirst ⊢ with hp
          · rw [List.map_cons, List.sum_cons, List.map_cons, List.sum_cons, ← hFirst, hRest]
            rfl
          · have hZero : value b = 0 := hFirst
            rw [List.map_cons, List.sum_cons, hZero, zero_add, hRest]

end Images

/-- Only the element with the key contributes. -/
theorem flatMap_eq_of_unique {α β κ : Type} {key : α → κ} {f : α → List β} {xs : List α} {x : α}
    (hKeys : xs.Pairwise fun a b => key a ≠ key b) (hx : x ∈ xs)
    (hOthers : ∀ a ∈ xs, key a ≠ key x → f a = []) : xs.flatMap f = f x := by
  induction xs with
  | nil => cases hx
  | cons first rest ih =>
      rw [List.pairwise_cons] at hKeys
      rw [List.flatMap_cons]
      rcases List.mem_cons.mp hx with rfl | hRest
      · have hNone : rest.flatMap f = [] := by
          rw [List.flatMap_eq_nil_iff]
          exact fun a ha => hOthers a (List.mem_cons_of_mem _ ha) fun he => hKeys.1 a ha he.symm
        rw [hNone, List.append_nil]
      · rw [hOthers first List.mem_cons_self (hKeys.1 x hRest), List.nil_append]
        exact ih hKeys.2 hRest fun a ha => hOthers a (List.mem_cons_of_mem _ ha)

end Tables
