import KiroUsage.Semantics.Transcript

/-! Programs that say and hear events of one kind only. A program is confined to a
kind of events if all its parts are, so that the whole transcript is known as soon
as each exchange is; and what every exchange keeps, a transcript keeps. -/
namespace Execution

variable {Request : Type} {Reply : Request → Type} {World Error Note Value Next Item : Type}
  {services : Services Request Reply World Error} {allowed : Event Request Reply Error Note → Prop}

/-- However the program ends, it has told nothing else. -/
def Confined (services : Services Request Reply World Error)
    (allowed : Event Request Reply Error Note → Prop)
    (program : Talk Request Reply World Error Note Value) : Prop :=
  Tells services 1 program (fun _ => only allowed) (only allowed)

namespace Confined

theorem done (value : Value) :
    Confined services allowed (Async.done value : Talk Request Reply World Error Note Value) :=
  Tells.done value one_le_only

theorem throwing (error : Error) :
    Confined services allowed (Async.throwing error : Talk Request Reply World Error Note Value) :=
  Tells.throwing error one_le_only

/-- After allowed events, a confined program. -/
theorem after {program : Talk Request Reply World Error Note Value}
    (h : Confined services allowed program) :
    Tells services (only allowed) program (fun _ => only allowed) (only allowed) :=
  (Tells.frame h (only allowed)).weaken (fun _ => mul_le_only (le_refl _) (le_refl _))
    (mul_le_only (le_refl _) (le_refl _))

theorem bind {first : Talk Request Reply World Error Note Value}
    {next : Value → Talk Request Reply World Error Note Next} (hFirst : Confined services allowed first)
    (hNext : ∀ value, Confined services allowed (next value)) :
    Confined services allowed (first >>= next) :=
  Tells.bind (fun _ => only allowed) hFirst fun value => (hNext value).after

/-- A pure computation tells nothing, and what follows may use its result. -/
theorem ofExcept_bind {result : Except Error Value}
    {next : Value → Talk Request Reply World Error Note Next}
    (h : ∀ value, result = .ok value → Confined services allowed (next value)) :
    Confined services allowed (Async.ofExcept result >>= next) := by
  cases result with
  | ok value => exact h value rfl
  | error error => exact throwing error

theorem ofExcept (result : Except Error Value) :
    Confined services allowed (Async.ofExcept result : Talk Request Reply World Error Note Value) := by
  cases result with
  | ok value => exact done value
  | error error => exact throwing error

theorem exchange {request : Request} (h : ∀ result, allowed (.call request result)) :
    Confined services allowed
      (Async.exchange services request : Talk Request Reply World Error Note (Reply request)) :=
  (Tells.exchange request).weaken (fun reply => heard_le_only request reply (h _))
    (refused_le_only request fun _ => h _)

theorem note {line : Note} (h : allowed (.note line)) :
    Confined services allowed (Async.note line : Talk Request Reply World Error Note Unit) := by
  refine (Tells.note line).weaken (fun _ => ?_) (le_refl _)
  rintro _ rfl event hm
  rwa [List.mem_singleton.mp hm]

theorem catching {body : Talk Request Reply World Error Note Value}
    {handler : Error → Talk Request Reply World Error Note Value}
    (hBody : Confined services allowed body)
    (hHandler : ∀ error, Confined services allowed (handler error)) :
    Confined services allowed (Async.catching body handler) :=
  Tells.catching (only allowed) hBody fun error => (hHandler error).after

end Confined

/-- What every event keeps is kept by all of them, if it is a preorder. -/
theorem Chain.relates {start after : World} {events : List (Event Request Reply Error Note)}
    (kept : World → World → Prop) (hRefl : ∀ w, kept w w)
    (hTrans : ∀ {first second third}, kept first second → kept second third → kept first third)
    (h : Chain services start events after)
    (hEach : ∀ request result, .call request result ∈ events → ∀ w next,
      services request w = (result, next) → kept w next) : kept start after := by
  induction h with
  | nil w => exact hRefl w
  | call hCall _ ih =>
      have hRest := ih fun request result hm => hEach request result (List.mem_cons_of_mem _ hm)
      exact hTrans (hEach _ _ List.mem_cons_self _ _ hCall) hRest
  | note _ ih => exact ih fun request result hm => hEach request result (List.mem_cons_of_mem _ hm)

end Execution
