import KiroUsage.Semantics.Triple

/-! Programs under two plans. A run depends on its plan only through the calls
that it makes, so plans that agree on these give the same run. -/
namespace Execution

namespace Async

variable {Request Failure State Error Value Next Local Item : Type}

/-- The program makes such requests only. -/
def Within (requests : Request → Prop) (program : Async Request Failure State Error Value) : Prop :=
  ∀ plan plan' : Plan Request Failure,
    (∀ calls request, requests request → plan calls request = plan' calls request) →
      program plan = program plan'

/-- Every call is counted, whatever becomes of it. -/
theorem calls_call {plan : Plan Request Failure} {calls : Nat} {state : State}
    {raise : Failure → Error} {request : Request} {action : State → Except Error Value × State} :
    (call raise request action plan calls state).calls = calls + 1 := by
  unfold call
  cases plan calls request with
  | pass =>
      rcases action state with ⟨answer, after⟩
      cases answer <;> rfl
  | fail cause applied => rfl
  | kill => rfl

/-- The program makes no call. -/
def Silent (program : Async Request Failure State Error Value) : Prop :=
  ∀ plan calls state, (program plan calls state).calls = calls

theorem silent_ofExcept (result : Except Error Value) :
    Silent (ofExcept result : Async Request Failure State Error Value) := by
  cases result <;> exact fun _ _ _ => rfl

theorem calls_andThen {plan : Plan Request Failure} {calls : Nat} {state : State}
    {first : Async Request Failure State Error Value}
    {next : Value → Async Request Failure State Error Next} (h : ∀ value, Silent (next value)) :
    (andThen first next plan calls state).calls = (first plan calls state).calls := by
  unfold andThen
  rcases first plan calls state with ⟨outcome, calls', after⟩
  cases outcome with
  | returned value => exact h value plan calls' after
  | threw error => rfl
  | killed => rfl

theorem calls_catching {plan : Plan Request Failure} {calls : Nat} {state : State}
    {body : Async Request Failure State Error Value}
    {handler : Error → Async Request Failure State Error Value} (h : ∀ error, Silent (handler error)) :
    (catching body handler plan calls state).calls = (body plan calls state).calls := by
  unfold catching
  rcases body plan calls state with ⟨outcome, calls', after⟩
  cases outcome with
  | returned value => rfl
  | threw error => exact h error plan calls' after
  | killed => rfl

theorem calls_lift {plan : Plan Request Failure} {calls : Nat} {state : State × Local}
    {program : Async Request Failure State Error Value} :
    ((lift program : Async Request Failure (State × Local) Error Value) plan calls state).calls =
      (program plan calls state.1).calls := by
  unfold lift
  rcases program plan calls state.1 with ⟨outcome, calls', after⟩
  rfl

section Congruence

variable {plan plan' : Plan Request Failure} {calls : Nat}

theorem call_congr {state : State} {raise : Failure → Error} {request : Request}
    {action : State → Except Error Value × State} (h : plan calls request = plan' calls request) :
    call raise request action plan calls state = call raise request action plan' calls state := by
  unfold call
  rw [h]

/-- Two runs of a sequence agree if those of its parts do. -/
theorem andThen_congr {state : State} {first : Async Request Failure State Error Value}
    {next : Value → Async Request Failure State Error Next}
    (hFirst : first plan calls state = first plan' calls state)
    (hNext : ∀ value calls' after, first plan' calls state = ⟨.returned value, calls', after⟩ →
      next value plan calls' after = next value plan' calls' after) :
    andThen first next plan calls state = andThen first next plan' calls state := by
  unfold andThen
  rw [hFirst]
  rcases hRun : first plan' calls state with ⟨outcome, calls', after⟩
  cases outcome with
  | returned value => exact hNext value calls' after hRun
  | threw error => rfl
  | killed => rfl

theorem lift_congr {state : State × Local} {program : Async Request Failure State Error Value}
    (h : program plan calls state.1 = program plan' calls state.1) :
    (lift program : Async Request Failure (State × Local) Error Value) plan calls state =
      lift program plan' calls state := by
  unfold lift
  rw [h]

theorem catchingWith_congr {state : State} {initial : Local}
    {body : Async Request Failure (State × Local) Error Value}
    {handler : Local → Error → Async Request Failure State Error Value}
    (hBody : body plan calls (state, initial) = body plan' calls (state, initial))
    (hHandler : ∀ vars error, handler vars error plan = handler vars error plan') :
    catchingWith initial body handler plan calls state =
      catchingWith initial body handler plan' calls state := by
  unfold catchingWith
  rw [hBody]
  rcases body plan' calls (state, initial) with ⟨outcome, calls', after⟩
  cases outcome with
  | returned value => rfl
  | threw error => exact congrFun (congrFun (hHandler after.2 error) calls') after.1
  | killed => rfl

end Congruence

namespace Within

variable {requests : Request → Prop}

theorem done (value : Value) :
    Within requests (Async.done value : Async Request Failure State Error Value) :=
  fun _ _ _ => rfl

theorem throwing (error : Error) :
    Within requests (Async.throwing error : Async Request Failure State Error Value) :=
  fun _ _ _ => rfl

theorem ofExcept (result : Except Error Value) :
    Within requests (Async.ofExcept result : Async Request Failure State Error Value) := by
  cases result with
  | ok value => exact done value
  | error error => exact throwing error

theorem inspect (view : State → Value) :
    Within requests (Async.inspect view : Async Request Failure State Error Value) :=
  fun _ _ _ => rfl

theorem modify (update : State → State) :
    Within requests (Async.modify update : Async Request Failure State Error Unit) :=
  fun _ _ _ => rfl

theorem call {raise : Failure → Error} {request : Request}
    {action : State → Except Error Value × State} (h : requests request) :
    Within requests (Async.call raise request action) := by
  intro plan plan' hAgree
  funext calls state
  exact call_congr (hAgree calls request h)

theorem andThen {first : Async Request Failure State Error Value}
    {next : Value → Async Request Failure State Error Next} (hFirst : Within requests first)
    (hNext : ∀ value, Within requests (next value)) : Within requests (Async.andThen first next) := by
  intro plan plan' hAgree
  funext calls state
  refine andThen_congr (by rw [hFirst plan plan' hAgree]) fun value calls' after _ => ?_
  rw [hNext value plan plan' hAgree]

/-- `andThen` in the notation of `do` blocks. -/
theorem bind {first : Async Request Failure State Error Value}
    {next : Value → Async Request Failure State Error Next} (hFirst : Within requests first)
    (hNext : ∀ value, Within requests (next value)) : Within requests (first >>= next) :=
  hFirst.andThen hNext

theorem catching {body : Async Request Failure State Error Value}
    {handler : Error → Async Request Failure State Error Value} (hBody : Within requests body)
    (hHandler : ∀ error, Within requests (handler error)) :
    Within requests (Async.catching body handler) := by
  intro plan plan' hAgree
  funext calls state
  unfold Async.catching
  rw [hBody plan plan' hAgree]
  rcases body plan' calls state with ⟨outcome, calls', after⟩
  cases outcome with
  | returned value => rfl
  | threw error => exact congrFun (congrFun (hHandler error plan plan' hAgree) calls') after
  | killed => rfl

theorem attempt {body : Async Request Failure State Error Unit} (h : Within requests body) :
    Within requests (Async.attempt body) :=
  (h.andThen fun _ => done none).catching fun error => done (some error)

theorem lift {program : Async Request Failure State Error Value} (h : Within requests program) :
    Within requests (Async.lift program : Async Request Failure (State × Local) Error Value) := by
  intro plan plan' hAgree
  funext calls state
  exact lift_congr (by rw [h plan plan' hAgree])

theorem assign (update : Local → Local) :
    Within requests (Async.assign update : Async Request Failure (State × Local) Error Unit) :=
  modify _

theorem forEach {items : List Item} {body : Item → Async Request Failure State Error Unit}
    (h : ∀ item, Within requests (body item)) : Within requests (Async.forEach items body) := by
  induction items with
  | nil => exact done ()
  | cons item rest ih => exact (h item).andThen fun _ => ih

/-- What holds under one plan holds under every plan that agrees with it. -/
theorem triple {program : Async Request Failure State Error Value} (h : Within requests program)
    {plan plan' : Plan Request Failure} {pre : State → Prop} {post : Post State Error Value}
    (hAgree : ∀ calls request, requests request → plan calls request = plan' calls request)
    (hTriple : Triple plan' pre program post) : Triple plan pre program post := by
  intro calls state hState
  rw [h plan plan' hAgree]
  exact hTriple calls state hState

end Within

end Async

end Execution
