import KiroUsage.Semantics.Execution

/-! Two programs run side by side, each under a plan of its own. If every call of
the one fares like the same call of the other and keeps their states related, the
runs end alike. A relation may be an equation, so that one rule set says that a
change of the state commutes with a program, that two plans cannot be told apart,
or that a program does not depend on some of its data. -/
namespace Execution

variable {Request Request' Failure State State' Error Value Value' Next Next' Local Item : Type}

/-- Related values, or the same error. -/
inductive Alike (values : Value → Value' → Prop) : Except Error Value → Except Error Value' → Prop
  | ok {value : Value} {value' : Value'} (h : values value value') :
      Alike values (.ok value) (.ok value')
  | error (error : Error) : Alike values (.error error) (.error error)

theorem Alike.refl {values : Value → Value → Prop} {answer : Except Error Value}
    (h : ∀ value, answer = .ok value → values value value) : Alike values answer answer := by
  cases answer with
  | ok value => exact .ok (h value rfl)
  | error error => exact .error error

/-- Two runs that ended in the same way. -/
inductive Outcome.Matches (values : Value → Value' → Prop) :
    Outcome Error Value → Outcome Error Value' → Prop
  | returned {value : Value} {value' : Value'} (h : values value value') :
      Outcome.Matches values (.returned value) (.returned value')
  | threw (error : Error) : Outcome.Matches values (.threw error) (.threw error)
  | killed : Outcome.Matches values .killed .killed

theorem Outcome.Matches.eq {outcome outcome' : Outcome Error Value}
    (h : outcome.Matches Eq outcome') : outcome = outcome' := by
  cases h with
  | returned hValue => rw [hValue]
  | threw error => rfl
  | killed => rfl

/-- They also made as many calls and left related states. -/
structure Result.Matches (relation : State → State' → Prop) (values : Value → Value' → Prop)
    (result : Result State Error Value) (result' : Result State' Error Value') : Prop where
  outcome : result.outcome.Matches values result'.outcome
  calls : result.calls = result'.calls
  state : relation result.state result'.state

/-- From related states the programs have matching runs. -/
def Simulates (plan : Plan Request Failure) (plan' : Plan Request' Failure)
    (relation : State → State' → Prop) (values : Value → Value' → Prop)
    (program : Async Request Failure State Error Value)
    (program' : Async Request' Failure State' Error Value') : Prop :=
  ∀ calls state state', relation state state' →
    (program plan calls state).Matches relation values (program' plan' calls state')

/-- States related beside related local variables. -/
def Beside (relation : State → State' → Prop) (locals : Local → Local → Prop)
    (state : State × Local) (state' : State' × Local) : Prop :=
  relation state.1 state'.1 ∧ locals state.2 state'.2

namespace Simulates

variable {plan : Plan Request Failure} {plan' : Plan Request' Failure}
  {relation : State → State' → Prop} {values : Value → Value' → Prop}
  {nexts : Next → Next' → Prop} {locals : Local → Local → Prop}

theorem done {value : Value} {value' : Value'} (h : values value value') :
    Simulates plan plan' relation values
      (Async.done value : Async Request Failure State Error Value)
      (Async.done value' : Async Request' Failure State' Error Value') :=
  fun _ _ _ hState => ⟨.returned h, rfl, hState⟩

theorem throwing (error : Error) :
    Simulates plan plan' relation values
      (Async.throwing error : Async Request Failure State Error Value)
      (Async.throwing error : Async Request' Failure State' Error Value') :=
  fun _ _ _ hState => ⟨.threw error, rfl, hState⟩

theorem ofExcept {result : Except Error Value} {result' : Except Error Value'}
    (h : Alike values result result') :
    Simulates plan plan' relation values
      (Async.ofExcept result : Async Request Failure State Error Value)
      (Async.ofExcept result' : Async Request' Failure State' Error Value') := by
  cases h with
  | ok hValue => exact done hValue
  | error error => exact throwing error

/-- The same pure computation on both sides. -/
theorem ofExcept_self (result : Except Error Value) :
    Simulates plan plan' relation (fun value value' => value = value' ∧ result = .ok value)
      (Async.ofExcept result : Async Request Failure State Error Value)
      (Async.ofExcept result : Async Request' Failure State' Error Value) :=
  ofExcept (Alike.refl fun _ h => ⟨rfl, h⟩)

theorem inspect {view : State → Value} {view' : State' → Value'}
    (h : ∀ state state', relation state state' → values (view state) (view' state')) :
    Simulates plan plan' relation values
      (Async.inspect view : Async Request Failure State Error Value)
      (Async.inspect view' : Async Request' Failure State' Error Value') :=
  fun _ state state' hState => ⟨.returned (h state state' hState), rfl, hState⟩

theorem modify {units : Unit → Unit → Prop} (hUnits : units () ()) {update : State → State}
    {update' : State' → State'}
    (h : ∀ state state', relation state state' → relation (update state) (update' state')) :
    Simulates plan plan' relation units
      (Async.modify update : Async Request Failure State Error Unit)
      (Async.modify update' : Async Request' Failure State' Error Unit) :=
  fun _ state state' hState => ⟨.returned hUnits, rfl, h state state' hState⟩

/-- Two calls that fare alike under their plans. -/
theorem call {raise : Failure → Error} {request : Request} {request' : Request'}
    {action : State → Except Error Value × State} {action' : State' → Except Error Value' × State'}
    (hPlan : ∀ calls, plan calls request = plan' calls request')
    (hAnswer : ∀ state state', relation state state' →
      Alike values (action state).1 (action' state').1)
    (hState : ∀ state state', relation state state' →
      relation (action state).2 (action' state').2) :
    Simulates plan plan' relation values (Async.call raise request action)
      (Async.call raise request' action') := by
  intro calls state state' hRelated
  have hAlike := hAnswer state state' hRelated
  have hAfter := hState state state' hRelated
  unfold Async.call
  rw [← hPlan]
  cases plan calls request with
  | pass =>
      rcases hRun : action state with ⟨answer, after⟩
      rcases hRun' : action' state' with ⟨answer', after'⟩
      rw [hRun, hRun'] at hAlike hAfter
      cases hAlike with
      | ok hValue => exact ⟨.returned hValue, rfl, hAfter⟩
      | error error => exact ⟨.threw error, rfl, hAfter⟩
  | fail cause applied =>
      cases applied with
      | false => exact ⟨.threw _, rfl, hRelated⟩
      | true => exact ⟨.threw _, rfl, hAfter⟩
  | kill => exact ⟨.killed, rfl, hRelated⟩

theorem andThen {first : Async Request Failure State Error Value}
    {first' : Async Request' Failure State' Error Value'}
    {next : Value → Async Request Failure State Error Next}
    {next' : Value' → Async Request' Failure State' Error Next'}
    (hFirst : Simulates plan plan' relation values first first')
    (hNext : ∀ value value', values value value' →
      Simulates plan plan' relation nexts (next value) (next' value')) :
    Simulates plan plan' relation nexts (Async.andThen first next) (Async.andThen first' next') := by
  intro calls state state' hState
  have hEnd := hFirst calls state state' hState
  unfold Async.andThen
  rcases hRun : first plan calls state with ⟨outcome, made, after⟩
  rcases hRun' : first' plan' calls state' with ⟨outcome', made', after'⟩
  rw [hRun, hRun'] at hEnd
  obtain ⟨hOutcome, rfl, hAfter⟩ := hEnd
  cases hOutcome with
  | returned hValue => exact hNext _ _ hValue made after after' hAfter
  | threw error => exact ⟨.threw error, rfl, hAfter⟩
  | killed => exact ⟨.killed, rfl, hAfter⟩

/-- `andThen` in the notation of `do` blocks. -/
theorem bind {first : Async Request Failure State Error Value}
    {first' : Async Request' Failure State' Error Value'}
    {next : Value → Async Request Failure State Error Next}
    {next' : Value' → Async Request' Failure State' Error Next'}
    (hFirst : Simulates plan plan' relation values first first')
    (hNext : ∀ value value', values value value' →
      Simulates plan plan' relation nexts (next value) (next' value')) :
    Simulates plan plan' relation nexts (first >>= next) (first' >>= next') :=
  andThen hFirst hNext

theorem catching {body : Async Request Failure State Error Value}
    {body' : Async Request' Failure State' Error Value'}
    {handler : Error → Async Request Failure State Error Value}
    {handler' : Error → Async Request' Failure State' Error Value'}
    (hBody : Simulates plan plan' relation values body body')
    (hHandler : ∀ error, Simulates plan plan' relation values (handler error) (handler' error)) :
    Simulates plan plan' relation values (Async.catching body handler)
      (Async.catching body' handler') := by
  intro calls state state' hState
  have hEnd := hBody calls state state' hState
  unfold Async.catching
  rcases hRun : body plan calls state with ⟨outcome, made, after⟩
  rcases hRun' : body' plan' calls state' with ⟨outcome', made', after'⟩
  rw [hRun, hRun'] at hEnd
  obtain ⟨hOutcome, rfl, hAfter⟩ := hEnd
  cases hOutcome with
  | returned hValue => exact ⟨.returned hValue, rfl, hAfter⟩
  | threw error => exact hHandler error made after after' hAfter
  | killed => exact ⟨.killed, rfl, hAfter⟩

theorem attempt {units : Unit → Unit → Prop} {body : Async Request Failure State Error Unit}
    {body' : Async Request' Failure State' Error Unit}
    (h : Simulates plan plan' relation units body body') :
    Simulates plan plan' relation Eq (Async.attempt body) (Async.attempt body') :=
  catching (andThen h fun _ _ _ => done rfl) fun _ => done rfl

theorem lift {program : Async Request Failure State Error Value}
    {program' : Async Request' Failure State' Error Value'}
    (h : Simulates plan plan' relation values program program') :
    Simulates plan plan' (Beside relation locals) values
      (Async.lift program : Async Request Failure (State × Local) Error Value)
      (Async.lift program') := by
  intro calls state state' hState
  obtain ⟨hOutcome, hCalls, hAfter⟩ := h calls state.1 state'.1 hState.1
  exact ⟨hOutcome, hCalls, hAfter, hState.2⟩

theorem assign {update update' : Local → Local}
    (h : ∀ vars vars', locals vars vars' → locals (update vars) (update' vars')) :
    Simulates plan plan' (Beside relation locals) Eq
      (Async.assign update : Async Request Failure (State × Local) Error Unit)
      (Async.assign update' : Async Request' Failure (State' × Local) Error Unit) :=
  modify rfl fun _ _ hState => ⟨hState.1, h _ _ hState.2⟩

theorem catchingWith {initial : Local}
    {body : Async Request Failure (State × Local) Error Value}
    {body' : Async Request' Failure (State' × Local) Error Value'}
    {handler : Local → Error → Async Request Failure State Error Value}
    {handler' : Local → Error → Async Request' Failure State' Error Value'}
    (hInitial : locals initial initial)
    (hBody : Simulates plan plan' (Beside relation locals) values body body')
    (hHandler : ∀ vars vars' error, locals vars vars' →
      Simulates plan plan' relation values (handler vars error) (handler' vars' error)) :
    Simulates plan plan' relation values (Async.catchingWith initial body handler)
      (Async.catchingWith initial body' handler') := by
  intro calls state state' hState
  have hEnd := hBody calls (state, initial) (state', initial) ⟨hState, hInitial⟩
  unfold Async.catchingWith
  rcases hRun : body plan calls (state, initial) with ⟨outcome, made, after⟩
  rcases hRun' : body' plan' calls (state', initial) with ⟨outcome', made', after'⟩
  rw [hRun, hRun'] at hEnd
  obtain ⟨hOutcome, rfl, hAfter⟩ := hEnd
  cases hOutcome with
  | returned hValue => exact ⟨.returned hValue, rfl, hAfter.1⟩
  | threw error => exact hHandler after.2 after'.2 error hAfter.2 made after.1 after'.1 hAfter.1
  | killed => exact ⟨.killed, rfl, hAfter.1⟩

theorem finallyWith {initial : Local}
    {body : Async Request Failure (State × Local) Error Value}
    {body' : Async Request' Failure (State' × Local) Error Value'}
    {cleanup : Local → Async Request Failure State Error Unit}
    {cleanup' : Local → Async Request' Failure State' Error Unit}
    (hInitial : locals initial initial)
    (hBody : Simulates plan plan' (Beside relation locals) values body body')
    (hCleanup : ∀ vars vars', locals vars vars' →
      Simulates plan plan' relation Eq (cleanup vars) (cleanup' vars')) :
    Simulates plan plan' relation values (Async.finallyWith initial body cleanup)
      (Async.finallyWith initial body' cleanup') := by
  intro calls state state' hState
  have hEnd := hBody calls (state, initial) (state', initial) ⟨hState, hInitial⟩
  unfold Async.finallyWith
  rcases hRun : body plan calls (state, initial) with ⟨outcome, made, after⟩
  rcases hRun' : body' plan' calls (state', initial) with ⟨outcome', made', after'⟩
  rw [hRun, hRun'] at hEnd
  obtain ⟨hOutcome, rfl, hAfter⟩ := hEnd
  have hRest := hCleanup after.2 after'.2 hAfter.2
  cases hOutcome with
  | returned hValue =>
      exact andThen hRest (fun _ _ _ => done hValue) made after.1 after'.1 hAfter.1
  | threw error => exact andThen hRest (fun _ _ _ => throwing error) made after.1 after'.1 hAfter.1
  | killed => exact ⟨.killed, rfl, hAfter.1⟩

/-- Both loops go through the same items. -/
theorem forEach {items : List Item} {body : Item → Async Request Failure State Error Unit}
    {body' : Item → Async Request' Failure State' Error Unit}
    (h : ∀ item ∈ items, Simulates plan plan' relation Eq (body item) (body' item)) :
    Simulates plan plan' relation Eq (Async.forEach items body) (Async.forEach items body') := by
  induction items with
  | nil => exact done rfl
  | cons item rest ih =>
      exact andThen (h item List.mem_cons_self) fun _ _ _ =>
        ih fun other hm => h other (List.mem_cons_of_mem _ hm)

end Simulates

/-- Two runs from one state that end in one state are the same. -/
theorem Simulates.run_eq {plan : Plan Request Failure} {plan' : Plan Request' Failure}
    {invariant : State → Prop} {program : Async Request Failure State Error Value}
    {program' : Async Request' Failure State Error Value}
    (h : Simulates plan plan' (fun state state' => state = state' ∧ invariant state) Eq
      program program') {state : State} (hState : invariant state) (calls : Nat) :
    program plan calls state = program' plan' calls state := by
  have hEnd := h calls state state ⟨rfl, hState⟩
  rcases hRun : program plan calls state with ⟨outcome, made, after⟩
  rcases hRun' : program' plan' calls state with ⟨outcome', made', after'⟩
  rw [hRun, hRun'] at hEnd
  obtain ⟨hOutcome, hCalls, hState', _⟩ := hEnd
  cases hCalls
  cases hState'
  cases Outcome.Matches.eq hOutcome
  rfl

end Execution
