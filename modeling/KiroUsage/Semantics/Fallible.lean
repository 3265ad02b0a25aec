import Mathlib.Logic.Basic

/-! Pure computations that may fail, run step by step. -/
namespace Fallible

variable {Error Value Next State Item : Type}

/-- A sequence succeeds when both its parts do. -/
theorem bind_eq_ok {first : Except Error Value} {next : Value → Except Error Next} {result : Next} :
    first >>= next = .ok result ↔ ∃ value, first = .ok value ∧ next value = .ok result := by
  cases first with
  | error error =>
      constructor
      · intro h
        cases h
      · rintro ⟨_, h, _⟩
        cases h
  | ok value =>
      constructor
      · exact fun h => ⟨value, rfl, h⟩
      · rintro ⟨_, h, hNext⟩
        cases h
        exact hNext

theorem pure_eq_ok {value result : Value} :
    (pure value : Except Error Value) = .ok result ↔ value = result :=
  Except.ok.injEq value result ▸ Iff.rfl

theorem ok_bind (value : Value) (next : Value → Except Error Next) :
    (Except.ok value : Except Error Value) >>= next = next value := rfl

theorem eq_ok_of_toOption {computation : Except Error Value} {result : Value}
    (h : computation.toOption = some result) : computation = .ok result := by
  cases computation with
  | error error => cases h
  | ok value => cases h; rfl

theorem throw_bind_ne_ok {error : Error} {next : Value → Except Error Next} {result : Next} :
    (throw error : Except Error Value) >>= next ≠ .ok result := nofun

/-- What every successful step keeps holds after a successful loop. -/
theorem foldlM_invariant {step : State → Item → Except Error State} (invariant : State → Prop)
    {items : List Item} {initial final : State} (h : items.foldlM step initial = .ok final)
    (hInitial : invariant initial)
    (hStep : ∀ before item after, step before item = .ok after → invariant before →
      invariant after) :
    invariant final := by
  induction items generalizing initial with
  | nil =>
      rw [List.foldlM_nil, pure_eq_ok] at h
      rwa [← h]
  | cons item rest ih =>
      rw [List.foldlM_cons, bind_eq_ok] at h
      obtain ⟨middle, hItem, hRest⟩ := h
      exact ih hRest (hStep _ _ _ hItem hInitial)

end Fallible
