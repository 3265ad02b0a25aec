import KiroUsage.Semantics.Triple

/-! Invariants of programs. A program keeps an invariant if it holds wherever the
program ends or may be stopped, so that nothing need be known about its values or
its errors. -/
namespace Execution

/-- The invariant holds afterwards, however the program ends. -/
def Keeps {Request Failure State Error Value : Type} (plan : Plan Request Failure)
    (invariant : State → Prop) (program : Async Request Failure State Error Value) : Prop :=
  Triple plan invariant program ⟨fun _ => invariant, fun _ => invariant, invariant⟩

variable {Request Failure State Error Value Next Local Item : Type} {plan : Plan Request Failure}
  {invariant : State → Prop}

theorem keeps_iff {program : Async Request Failure State Error Value} :
    Keeps plan invariant program ↔
      ∀ calls state, invariant state → invariant (program plan calls state).state := by
  have hMeets (result : Result State Error Value) :
      result.Meets ⟨fun _ => invariant, fun _ => invariant, invariant⟩ ↔ invariant result.state := by
    unfold Result.Meets
    cases result.outcome <;> rfl
  exact forall_congr' fun calls => forall_congr' fun state => imp_congr_right fun _ => hMeets _

namespace Keeps

theorem done (value : Value) :
    Keeps plan invariant (Async.done value : Async Request Failure State Error Value) :=
  Triple.done value fun _ h => h

theorem throwing (error : Error) :
    Keeps plan invariant (Async.throwing error : Async Request Failure State Error Value) :=
  Triple.throwing error fun _ h => h

theorem ofExcept (result : Except Error Value) :
    Keeps plan invariant (Async.ofExcept result : Async Request Failure State Error Value) :=
  Triple.ofExcept (fun _ _ _ h => h) fun _ _ _ h => h

theorem modify {update : State → State} (h : ∀ state, invariant state → invariant (update state)) :
    Keeps plan invariant (Async.modify update : Async Request Failure State Error Unit) :=
  Triple.modify update h

theorem bind {first : Async Request Failure State Error Value}
    {next : Value → Async Request Failure State Error Next} (hFirst : Keeps plan invariant first)
    (hNext : ∀ value, Keeps plan invariant (next value)) :
    Keeps plan invariant (first >>= next) :=
  Triple.bind (fun _ => invariant) hFirst hNext

/-- A call keeps what its action keeps, since a call that fails has done nothing else. -/
theorem call {raise : Failure → Error} {request : Request}
    {action : State → Except Error Value × State}
    (h : ∀ state, invariant state → invariant (action state).2) :
    Keeps plan invariant (Async.call raise request action) := by
  refine Triple.call (fun state hState _ _ _ _ => h state hState) (fun state hState _ _ => h state hState)
    ?_ fun _ hState _ _ => hState
  intro state hState calls cause applied _
  cases applied with
  | false => exact hState
  | true => exact h state hState

theorem catching {body : Async Request Failure State Error Value}
    {handler : Error → Async Request Failure State Error Value} (hBody : Keeps plan invariant body)
    (hHandler : ∀ error, Keeps plan invariant (handler error)) :
    Keeps plan invariant (Async.catching body handler) :=
  Triple.catching (fun _ => invariant) hBody hHandler

theorem attempt {body : Async Request Failure State Error Unit} (h : Keeps plan invariant body) :
    Keeps plan invariant (Async.attempt body) :=
  Triple.attempt h

theorem inspect (look : State → Value) :
    Keeps plan invariant (Async.inspect look : Async Request Failure State Error Value) :=
  Triple.inspect look fun _ h => h

theorem forEach {items : List Item} {body : Item → Async Request Failure State Error Unit}
    (h : ∀ item, Keeps plan invariant (body item)) :
    Keeps plan invariant (Async.forEach items body) :=
  Triple.forEach (fun _ _ => invariant) (fun _ item _ _ => h item) fun _ h => h

/-- Local variables do not matter to an invariant of the state. -/
theorem lift {program : Async Request Failure State Error Value} (h : Keeps plan invariant program) :
    Keeps plan (fun state : State × Local => invariant state.1) (Async.lift program) := by
  rw [keeps_iff] at h ⊢
  intro calls state hState
  exact h calls state.1 hState

theorem assign {kept : State × Local → Prop} {update : Local → Local}
    (h : ∀ state vars, kept (state, vars) → kept (state, update vars)) :
    Keeps plan kept (Async.assign update : Async Request Failure (State × Local) Error Unit) :=
  Triple.assign update h

end Keeps

end Execution
