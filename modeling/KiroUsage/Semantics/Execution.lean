/-! Sequential programs whose every external call may go wrong.
A plan fixes, call by call, what the environment does: let the call through,
let it throw (with or without the effect having happened), or stop the whole
program. Nothing here fixes what the calls are. -/
namespace Execution

/-- What the environment does to one call. A failed call may still have
taken effect; `kill` ends the program before the call does anything. -/
inductive Fault (Failure : Type) where
  | pass
  | fail (cause : Failure) (applied : Bool)
  | kill

/-- The environment's choice for the n-th call of a run, which may also look
at the request. -/
abbrev Plan (Request Failure : Type) := Nat → Request → Fault Failure

/-- The environment that lets every call through. -/
def Plan.healthy {Request Failure : Type} : Plan Request Failure := fun _ _ => .pass

/-- How a program ends. `killed` cannot be caught by the program itself. -/
inductive Outcome (Error Value : Type) where
  | returned (value : Value)
  | threw (error : Error)
  | killed

namespace Outcome

variable {Error Value : Type}

def hasReturned : Outcome Error Value → Bool
  | returned _ => true
  | _ => false

def isKilled : Outcome Error Value → Bool
  | killed => true
  | _ => false

theorem eq_returned {outcome : Outcome Error Unit} (h : outcome.hasReturned = true) :
    outcome = .returned () := by
  cases outcome with
  | returned => rfl
  | threw => cases h
  | killed => cases h

theorem ne_killed {outcome : Outcome Error Value} (h : outcome.isKilled = false) :
    outcome ≠ .killed := by
  rintro rfl
  cases h

end Outcome

/-- Where a run ends: its outcome, the number of calls made and the state. -/
structure Result (State Error Value : Type) where
  outcome : Outcome Error Value
  calls : Nat
  state : State

/-- A program over a state, run under a plan from a number of calls already
made. -/
def Async (Request Failure State Error Value : Type) :=
  Plan Request Failure → Nat → State → Result State Error Value

namespace Async

variable {Request Failure State Error Value Next Local Item : Type}

def done (value : Value) : Async Request Failure State Error Value :=
  fun _ calls state => ⟨.returned value, calls, state⟩

def andThen (first : Async Request Failure State Error Value)
    (next : Value → Async Request Failure State Error Next) :
    Async Request Failure State Error Next := fun plan calls state =>
  match first plan calls state with
  | ⟨.returned value, calls, state⟩ => next value plan calls state
  | ⟨.threw error, calls, state⟩ => ⟨.threw error, calls, state⟩
  | ⟨.killed, calls, state⟩ => ⟨.killed, calls, state⟩

instance : Monad (Async Request Failure State Error) where
  pure := done
  bind := andThen

def throwing (error : Error) : Async Request Failure State Error Value :=
  fun _ calls state => ⟨.threw error, calls, state⟩

/-- A pure computation that may throw. -/
def ofExcept (result : Except Error Value) : Async Request Failure State Error Value :=
  match result with
  | .ok value => done value
  | .error error => throwing error

/-- Look at the state without a call. -/
def inspect (view : State → Value) : Async Request Failure State Error Value :=
  fun _ calls state => ⟨.returned (view state), calls, state⟩

def modify (update : State → State) : Async Request Failure State Error Unit :=
  fun _ calls state => ⟨.returned (), calls, update state⟩

/-- One external call. Its action answers from the state and may change it;
a failure is raised as an error of the program. -/
def call (raise : Failure → Error) (request : Request)
    (action : State → Except Error Value × State) :
    Async Request Failure State Error Value := fun plan calls state =>
  match plan calls request with
  | .pass =>
    match action state with
    | (.ok value, after) => ⟨.returned value, calls + 1, after⟩
    | (.error error, after) => ⟨.threw error, calls + 1, after⟩
  | .fail cause applied =>
    ⟨.threw (raise cause), calls + 1, if applied then (action state).2 else state⟩
  | .kill => ⟨.killed, calls + 1, state⟩

/-- `try { body } catch (e) { handler e }`. -/
def catching (body : Async Request Failure State Error Value)
    (handler : Error → Async Request Failure State Error Value) :
    Async Request Failure State Error Value := fun plan calls state =>
  match body plan calls state with
  | ⟨.returned value, calls, state⟩ => ⟨.returned value, calls, state⟩
  | ⟨.threw error, calls, state⟩ => handler error plan calls state
  | ⟨.killed, calls, state⟩ => ⟨.killed, calls, state⟩

/-- Run a program and hand over the error it throws, if it throws one. -/
def attempt (body : Async Request Failure State Error Unit) :
    Async Request Failure State Error (Option Error) :=
  catching (andThen body fun _ => done none) fun error => done (some error)

/-- Run a program beside local variables that it leaves alone. -/
def lift (program : Async Request Failure State Error Value) :
    Async Request Failure (State × Local) Error Value := fun plan calls state =>
  match program plan calls state.1 with
  | ⟨outcome, calls, after⟩ => ⟨outcome, calls, (after, state.2)⟩

/-- Assign the local variables. -/
def assign (update : Local → Local) : Async Request Failure (State × Local) Error Unit :=
  modify fun state => (state.1, update state.2)

/-- `try { body } catch (e) { handler e }` where the handler sees the local
variables as the body left them. -/
def catchingWith (initial : Local)
    (body : Async Request Failure (State × Local) Error Value)
    (handler : Local → Error → Async Request Failure State Error Value) :
    Async Request Failure State Error Value := fun plan calls state =>
  match body plan calls (state, initial) with
  | ⟨.returned value, calls, after⟩ => ⟨.returned value, calls, after.1⟩
  | ⟨.threw error, calls, after⟩ => handler after.2 error plan calls after.1
  | ⟨.killed, calls, after⟩ => ⟨.killed, calls, after.1⟩

/-- `try { body } finally { cleanup }` where the clean-up sees the local variables
as the body left them. An error of the clean-up takes the place of the body's. -/
def finallyWith (initial : Local)
    (body : Async Request Failure (State × Local) Error Value)
    (cleanup : Local → Async Request Failure State Error Unit) :
    Async Request Failure State Error Value := fun plan calls state =>
  match body plan calls (state, initial) with
  | ⟨.returned value, calls, after⟩ =>
    andThen (cleanup after.2) (fun _ => done value) plan calls after.1
  | ⟨.threw error, calls, after⟩ =>
    andThen (cleanup after.2) (fun _ => throwing error) plan calls after.1
  | ⟨.killed, calls, after⟩ => ⟨.killed, calls, after.1⟩

/-- `foreach (item in items) { body item }`. -/
def forEach (items : List Item) (body : Item → Async Request Failure State Error Unit) :
    Async Request Failure State Error Unit :=
  match items with
  | [] => done ()
  | item :: rest => andThen (body item) fun _ => forEach rest body

end Async

end Execution
