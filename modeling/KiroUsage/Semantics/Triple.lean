import KiroUsage.Semantics.Execution

/-! Pre- and postconditions for programs whose calls may fail. A program has
three ways to end, so a postcondition has three parts: what holds on return,
what holds when an error escapes, and what holds wherever the program may be
stopped. Every rule is for an arbitrary plan of the environment. -/
namespace Execution

/-- The three parts of a postcondition. -/
structure Post (State Error Value : Type) where
  returned : Value → State → Prop
  threw : Error → State → Prop
  killed : State → Prop

def Result.Meets {State Error Value : Type} (result : Result State Error Value)
    (post : Post State Error Value) : Prop :=
  match result.outcome with
  | .returned value => post.returned value result.state
  | .threw error => post.threw error result.state
  | .killed => post.killed result.state

/-- Started in any state that satisfies `pre`, after any number of calls, the
program ends under the plan as `post` says. -/
def Triple {Request Failure State Error Value : Type} (plan : Plan Request Failure)
    (pre : State → Prop) (program : Async Request Failure State Error Value)
    (post : Post State Error Value) : Prop :=
  ∀ calls state, pre state → (program plan calls state).Meets post

namespace Triple

variable {Request Failure State Error Value Next Local Item : Type}
  {plan : Plan Request Failure}

/-- Strengthen the precondition and weaken each part of the postcondition. -/
theorem consequence {pre pre' : State → Prop}
    {program : Async Request Failure State Error Value} {post post' : Post State Error Value}
    (h : Triple plan pre' program post') (hPre : ∀ state, pre state → pre' state)
    (hReturned : ∀ value state, post'.returned value state → post.returned value state)
    (hThrew : ∀ error state, post'.threw error state → post.threw error state)
    (hKilled : ∀ state, post'.killed state → post.killed state) :
    Triple plan pre program post := by
  intro calls state hState
  have hEnd := h calls state (hPre state hState)
  unfold Result.Meets at hEnd ⊢
  cases hOutcome : (program plan calls state).outcome with
  | returned value => exact hReturned value _ (by simpa [hOutcome] using hEnd)
  | threw error => exact hThrew error _ (by simpa [hOutcome] using hEnd)
  | killed => exact hKilled _ (by simpa [hOutcome] using hEnd)

theorem strengthen {pre pre' : State → Prop}
    {program : Async Request Failure State Error Value} {post : Post State Error Value}
    (h : Triple plan pre' program post) (hPre : ∀ state, pre state → pre' state) :
    Triple plan pre program post :=
  h.consequence hPre (fun _ _ hv => hv) (fun _ _ he => he) (fun _ hk => hk)

/-- Two judgements of a program hold together. -/
theorem both {pre pre' : State → Prop} {program : Async Request Failure State Error Value}
    {post post' : Post State Error Value} (h : Triple plan pre program post)
    (h' : Triple plan pre' program post') : Triple plan (fun state => pre state ∧ pre' state) program
      ⟨fun value state => post.returned value state ∧ post'.returned value state,
        fun error state => post.threw error state ∧ post'.threw error state,
        fun state => post.killed state ∧ post'.killed state⟩ := by
  rintro calls state ⟨hPre, hPre'⟩
  have hFirst := h calls state hPre
  have hSecond := h' calls state hPre'
  unfold Result.Meets at hFirst hSecond ⊢
  cases hOutcome : (program plan calls state).outcome with
  | returned value => exact ⟨by simpa [hOutcome] using hFirst, by simpa [hOutcome] using hSecond⟩
  | threw error => exact ⟨by simpa [hOutcome] using hFirst, by simpa [hOutcome] using hSecond⟩
  | killed => exact ⟨by simpa [hOutcome] using hFirst, by simpa [hOutcome] using hSecond⟩

/-- A program may be judged from each initial state by itself. -/
theorem pointwise {pre : State → Prop} {program : Async Request Failure State Error Value}
    {post : Post State Error Value}
    (h : ∀ state, pre state → Triple plan (· = state) program post) : Triple plan pre program post :=
  fun calls state hState => h state hState calls state rfl

/-- A fact that the precondition implies may be used as a hypothesis. -/
theorem assuming {pre : State → Prop} {fact : Prop}
    {program : Async Request Failure State Error Value} {post : Post State Error Value}
    (hFact : ∀ state, pre state → fact) (h : fact → Triple plan pre program post) :
    Triple plan pre program post :=
  fun calls state hState => h (hFact state hState) calls state hState

theorem done {pre : State → Prop} {post : Post State Error Value} (value : Value)
    (h : ∀ state, pre state → post.returned value state) :
    Triple plan pre (Async.done value : Async Request Failure State Error Value) post :=
  fun _ state hState => h state hState

theorem throwing {pre : State → Prop} {post : Post State Error Value} (error : Error)
    (h : ∀ state, pre state → post.threw error state) :
    Triple plan pre (Async.throwing error : Async Request Failure State Error Value) post :=
  fun _ state hState => h state hState

theorem ofExcept {pre : State → Prop} {post : Post State Error Value}
    {result : Except Error Value}
    (hOk : ∀ value, result = .ok value → ∀ state, pre state → post.returned value state)
    (hError : ∀ error, result = .error error → ∀ state, pre state → post.threw error state) :
    Triple plan pre (Async.ofExcept result : Async Request Failure State Error Value) post := by
  cases result with
  | ok value => exact done value (hOk value rfl)
  | error error => exact throwing error (hError error rfl)

theorem inspect {pre : State → Prop} {post : Post State Error Value} (view : State → Value)
    (h : ∀ state, pre state → post.returned (view state) state) :
    Triple plan pre (Async.inspect view : Async Request Failure State Error Value) post :=
  fun _ state hState => h state hState

theorem modify {pre : State → Prop} {post : Post State Error Unit} (update : State → State)
    (h : ∀ state, pre state → post.returned () (update state)) :
    Triple plan pre (Async.modify update : Async Request Failure State Error Unit) post :=
  fun _ state hState => h state hState

theorem andThen {pre : State → Prop} {post : Post State Error Next}
    {first : Async Request Failure State Error Value}
    {next : Value → Async Request Failure State Error Next}
    (middle : Value → State → Prop)
    (hFirst : Triple plan pre first ⟨middle, post.threw, post.killed⟩)
    (hNext : ∀ value, Triple plan (middle value) (next value) post) :
    Triple plan pre (Async.andThen first next) post := by
  intro calls state hState
  have hEnd := hFirst calls state hState
  unfold Async.andThen
  rcases hRun : first plan calls state with ⟨outcome, calls', after⟩
  rw [hRun] at hEnd
  cases outcome with
  | returned value => exact hNext value calls' after hEnd
  | threw error => exact hEnd
  | killed => exact hEnd

/-- `andThen` in the notation of `do` blocks. -/
theorem bind {pre : State → Prop} {post : Post State Error Next}
    {first : Async Request Failure State Error Value}
    {next : Value → Async Request Failure State Error Next}
    (middle : Value → State → Prop)
    (hFirst : Triple plan pre first ⟨middle, post.threw, post.killed⟩)
    (hNext : ∀ value, Triple plan (middle value) (next value) post) :
    Triple plan pre (first >>= next) post :=
  andThen middle hFirst hNext

/-- A call is judged by the three things the environment may do to it. -/
theorem call {pre : State → Prop} {post : Post State Error Value} {raise : Failure → Error}
    {request : Request} {action : State → Except Error Value × State}
    (hOk : ∀ state, pre state → ∀ calls, plan calls request = .pass → ∀ value,
      (action state).1 = .ok value → post.returned value (action state).2)
    (hError : ∀ state, pre state → ∀ error, (action state).1 = .error error →
      post.threw error (action state).2)
    (hFail : ∀ state, pre state → ∀ calls cause applied, plan calls request = .fail cause applied →
      post.threw (raise cause) (if applied then (action state).2 else state))
    (hKill : ∀ state, pre state → ∀ calls, plan calls request = .kill → post.killed state) :
    Triple plan pre (Async.call raise request action) post := by
  intro calls state hState
  unfold Async.call
  cases hPlan : plan calls request with
  | pass =>
      rcases hAction : action state with ⟨answer, after⟩
      cases answer with
      | ok value =>
          have h := hOk state hState calls hPlan value (by rw [hAction])
          rwa [hAction] at h
      | error error =>
          have h := hError state hState error (by rw [hAction])
          rwa [hAction] at h
  | fail cause applied => exact hFail state hState calls cause applied hPlan
  | kill => exact hKill state hState calls hPlan

/-- A call that only reads. Its failures leave the state as it was. -/
theorem query {pre : State → Prop} {post : Post State Error Value} {raise : Failure → Error}
    {request : Request} {answer : State → Except Error Value}
    (hOk : ∀ state, pre state → ∀ value, answer state = .ok value → post.returned value state)
    (hError : ∀ state, pre state → ∀ error, answer state = .error error → post.threw error state)
    (hFail : ∀ state, pre state → ∀ calls cause applied, plan calls request = .fail cause applied →
      post.threw (raise cause) state)
    (hKill : ∀ state, pre state → ∀ calls, plan calls request = .kill → post.killed state) :
    Triple plan pre (Async.call raise request fun state => (answer state, state)) post := by
  refine call (fun state hState _ _ => hOk state hState) hError ?_ hKill
  · intro state hState calls cause applied hPlan
    have h := hFail state hState calls cause applied hPlan
    cases applied with
    | false => exact h
    | true => exact h

/-- A call that the plan always fails. -/
theorem failing {pre : State → Prop} {post : Post State Error Value} {raise : Failure → Error}
    {request : Request} {action : State → Except Error Value × State} {cause : Failure}
    {applied : Bool} (hPlan : ∀ calls, plan calls request = .fail cause applied)
    (h : ∀ state, pre state →
      post.threw (raise cause) (if applied then (action state).2 else state)) :
    Triple plan pre (Async.call raise request action) post := by
  intro calls state hState
  unfold Async.call
  rw [hPlan]
  exact h state hState

theorem catching {pre : State → Prop} {post : Post State Error Value}
    {body : Async Request Failure State Error Value}
    {handler : Error → Async Request Failure State Error Value}
    (escaped : Error → State → Prop)
    (hBody : Triple plan pre body ⟨post.returned, escaped, post.killed⟩)
    (hHandler : ∀ error, Triple plan (escaped error) (handler error) post) :
    Triple plan pre (Async.catching body handler) post := by
  intro calls state hState
  have hEnd := hBody calls state hState
  unfold Async.catching
  rcases hRun : body plan calls state with ⟨outcome, calls', after⟩
  rw [hRun] at hEnd
  cases outcome with
  | returned value => exact hEnd
  | threw error => exact hHandler error calls' after hEnd
  | killed => exact hEnd

theorem attempt {pre : State → Prop} {post : Post State Error (Option Error)}
    {body : Async Request Failure State Error Unit}
    (h : Triple plan pre body ⟨fun _ => post.returned none, fun error => post.returned (some error),
      post.killed⟩) :
    Triple plan pre (Async.attempt body) post :=
  catching (fun error => post.returned (some error))
    (andThen (fun _ => post.returned none) h fun _ => done _ fun _ hState => hState)
    fun _ => done _ fun _ hState => hState

/-- A program that does not see the local variables leaves them as they are. -/
theorem lift {pre : State → Prop} {post : Post (State × Local) Error Value}
    {program : Async Request Failure State Error Value} (vars : Local)
    (h : Triple plan pre program
      ⟨fun value state => post.returned value (state, vars),
        fun error state => post.threw error (state, vars),
        fun state => post.killed (state, vars)⟩) :
    Triple plan (fun state => pre state.1 ∧ state.2 = vars) (Async.lift program) post := by
  rintro calls ⟨state, vars⟩ ⟨hState, rfl⟩
  have hEnd := h calls state hState
  unfold Async.lift
  rcases hRun : program plan calls state with ⟨outcome, calls', after⟩
  rw [hRun] at hEnd
  cases outcome with
  | returned value => exact hEnd
  | threw error => exact hEnd
  | killed => exact hEnd

theorem assign {pre : State × Local → Prop} {post : Post (State × Local) Error Unit}
    (update : Local → Local)
    (h : ∀ state vars, pre (state, vars) → post.returned () (state, update vars)) :
    Triple plan pre (Async.assign update : Async Request Failure (State × Local) Error Unit) post :=
  modify _ fun state hState => h state.1 state.2 hState

theorem catchingWith {pre : State → Prop} {post : Post State Error Value} {initial : Local}
    {body : Async Request Failure (State × Local) Error Value}
    {handler : Local → Error → Async Request Failure State Error Value}
    (escaped : Local → Error → State → Prop)
    (hBody : Triple plan (fun state => pre state.1 ∧ state.2 = initial) body
      ⟨fun value state => post.returned value state.1,
        fun error state => escaped state.2 error state.1, fun state => post.killed state.1⟩)
    (hHandler : ∀ vars error, Triple plan (escaped vars error) (handler vars error) post) :
    Triple plan pre (Async.catchingWith initial body handler) post := by
  intro calls state hState
  have hEnd := hBody calls (state, initial) ⟨hState, rfl⟩
  unfold Async.catchingWith
  rcases hRun : body plan calls (state, initial) with ⟨outcome, calls', after⟩
  rw [hRun] at hEnd
  cases outcome with
  | returned value => exact hEnd
  | threw error => exact hHandler after.2 error calls' after.1 hEnd
  | killed => exact hEnd

theorem finallyWith {pre : State → Prop} {post : Post State Error Value} {initial : Local}
    {body : Async Request Failure (State × Local) Error Value}
    {cleanup : Local → Async Request Failure State Error Unit}
    (completed : Local → Value → State → Prop) (escaped : Local → Error → State → Prop)
    (hBody : Triple plan (fun state => pre state.1 ∧ state.2 = initial) body
      ⟨fun value state => completed state.2 value state.1,
        fun error state => escaped state.2 error state.1, fun state => post.killed state.1⟩)
    (hCompleted : ∀ vars value, Triple plan (completed vars value) (cleanup vars)
      ⟨fun _ => post.returned value, post.threw, post.killed⟩)
    (hEscaped : ∀ vars error, Triple plan (escaped vars error) (cleanup vars)
      ⟨fun _ => post.threw error, post.threw, post.killed⟩) :
    Triple plan pre (Async.finallyWith initial body cleanup) post := by
  intro calls state hState
  have hEnd := hBody calls (state, initial) ⟨hState, rfl⟩
  unfold Async.finallyWith
  rcases hRun : body plan calls (state, initial) with ⟨outcome, calls', after⟩
  rw [hRun] at hEnd
  cases outcome with
  | returned value =>
      exact andThen (fun _ => post.returned value) (hCompleted after.2 value)
        (fun _ => done value fun _ h => h) calls' after.1 hEnd
  | threw error =>
      exact andThen (fun _ => post.threw error) (hEscaped after.2 error)
        (fun _ => throwing error fun _ h => h) calls' after.1 hEnd
  | killed => exact hEnd

/-- The loop rule. The invariant speaks of the items already handled and of
those still to come; an item that throws or is killed ends the loop there. -/
theorem forEach {post : Post State Error Unit}
    {body : Item → Async Request Failure State Error Unit} {items : List Item}
    (invariant : List Item → List Item → State → Prop)
    (hBody : ∀ before item after, before ++ item :: after = items →
      Triple plan (invariant before (item :: after)) (body item)
        ⟨fun _ => invariant (before ++ [item]) after, post.threw, post.killed⟩)
    (hEnd : ∀ state, invariant items [] state → post.returned () state) :
    Triple plan (invariant [] items) (Async.forEach items body) post := by
  suffices h : ∀ rest before, before ++ rest = items →
      Triple plan (invariant before rest) (Async.forEach rest body) post from h items [] rfl
  intro rest
  induction rest with
  | nil =>
      intro before hSplit
      rw [List.append_nil] at hSplit
      subst hSplit
      exact done () hEnd
  | cons item after ih =>
      intro before hSplit
      refine andThen (fun _ => invariant (before ++ [item]) after)
        (hBody before item after hSplit) fun _ => ?_
      exact ih (before ++ [item]) (by simpa using hSplit)

end Triple

/-- What a triple says of one run. -/
theorem Triple.run {Request Failure State Error Value : Type} {plan : Plan Request Failure}
    {program : Async Request Failure State Error Value} {post : Post State Error Value}
    {state : State} (h : Triple plan (· = state) program post) (calls : Nat) :
    (program plan calls state).Meets post :=
  h calls state rfl

/-- The three ways in which a run may end. -/
theorem Triple.ends {Request Failure State Error Value : Type} {plan : Plan Request Failure}
    {program : Async Request Failure State Error Value} {post : Post State Error Value}
    {state : State} (h : Triple plan (· = state) program post) (calls : Nat) :
    let run := program plan calls state
    (∃ value, run.outcome = .returned value ∧ post.returned value run.state) ∨
      (∃ error, run.outcome = .threw error ∧ post.threw error run.state) ∨
      (run.outcome = .killed ∧ post.killed run.state) := by
  intro run
  have hEnd := h.run calls
  unfold Result.Meets at hEnd
  cases hOutcome : run.outcome with
  | returned value => exact Or.inl ⟨value, rfl, by simpa [run, hOutcome] using hEnd⟩
  | threw error => exact Or.inr (Or.inl ⟨error, rfl, by simpa [run, hOutcome] using hEnd⟩)
  | killed => exact Or.inr (Or.inr ⟨rfl, by simpa [run, hOutcome] using hEnd⟩)

/-- A program that can neither throw nor be killed returns. -/
theorem Triple.returns {Request Failure State Error Value : Type} {plan : Plan Request Failure}
    {program : Async Request Failure State Error Value} {state : State}
    {returned : Value → State → Prop}
    (h : Triple plan (· = state) program ⟨returned, fun _ _ => False, fun _ => False⟩)
    (calls : Nat) :
    ∃ value, (program plan calls state).outcome = .returned value ∧
      returned value (program plan calls state).state := by
  obtain hReturned | ⟨_, _, hNever⟩ | ⟨_, hNever⟩ := h.ends calls
  · exact hReturned
  · exact hNever.elim
  · exact hNever.elim

end Execution
