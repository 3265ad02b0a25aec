import Mathlib.Computability.Language
import Mathlib.Order.CompletePartialOrder
import KiroUsage.Semantics.Triple

/-! Programs judged by what they say to services of which nothing is assumed.
A program records each request with its result, and a specification is the
language of the records: one for a run that returns, one for a run that throws. -/
namespace Execution

section Events

variable (Request : Type) (Reply : Request → Type) (World Error Note : Type)

/-- How services answer. A request that fails may have changed them too. -/
abbrev Services := (request : Request) → World → Except Error (Reply request) × World

/-- A request with its result, or a note that nobody answers. -/
inductive Event where
  | call (request : Request) (result : Except Error (Reply request))
  | note (note : Note)

/-- The services' state, and what a program has said so far. -/
structure Transcript where
  world : World
  events : List (Event Request Reply Error Note)

/-- A program that talks to services. The services answer for every kind of
failure, so there are no further ones. -/
abbrev Talk (Value : Type) := Async Request Empty (Transcript Request Reply World Error Note) Error Value

end Events

variable {Request : Type} {Reply : Request → Type} {World Error Note Value Next Local : Type}

namespace Async

def exchange (services : Services Request Reply World Error) (request : Request) :
    Talk Request Reply World Error Note (Reply request) :=
  Async.call Empty.elim request fun transcript =>
    let answer := services request transcript.world
    (answer.1, ⟨answer.2, transcript.events ++ [.call request answer.1]⟩)

def note (line : Note) : Talk Request Reply World Error Note Unit :=
  Async.modify fun transcript => { transcript with events := transcript.events ++ [.note line] }

section Exchange

variable {services : Services Request Reply World Error} {request : Request} {next : World}
  {transcript : Transcript Request Reply World Error Note}

theorem exchange_of_ok {reply : Reply request}
    (h : services request transcript.world = (.ok reply, next)) (calls : Nat) :
    exchange services request Plan.healthy calls transcript = ⟨.returned reply, calls + 1, next,
      transcript.events ++ [.call request (.ok reply)]⟩ := by
  simp only [exchange, call, Plan.healthy, h]

theorem exchange_of_error {error : Error}
    (h : services request transcript.world = (.error error, next)) (calls : Nat) :
    exchange services request Plan.healthy calls transcript = ⟨.threw error, calls + 1, next,
      transcript.events ++ [.call request (.error error)]⟩ := by
  simp only [exchange, call, Plan.healthy, h]

end Exchange

end Async

/-- The services lead from one state to another by these events. -/
inductive Chain (services : Services Request Reply World Error) :
    World → List (Event Request Reply Error Note) → World → Prop
  | nil (world : World) : Chain services world [] world
  | call {world after : World} {request : Request} {result : Except Error (Reply request)}
      {next : World} {events : List (Event Request Reply Error Note)}
      (h : services request world = (result, next)) (hRest : Chain services next events after) :
      Chain services world (.call request result :: events) after
  | note {world after : World} {line : Note} {events : List (Event Request Reply Error Note)}
      (hRest : Chain services world events after) : Chain services world (.note line :: events) after

variable {services : Services Request Reply World Error} {world middle after : World}
  {events more : List (Event Request Reply Error Note)}

theorem Chain.append (h : Chain services world events middle) (h' : Chain services middle more after) :
    Chain services world (events ++ more) after := by
  induction h with
  | nil => exact h'
  | call h _ ih => exact .call h (ih h')
  | note _ ih => exact .note (ih h')

theorem Chain.split (h : Chain services world (events ++ more) after) :
    ∃ middle, Chain services world events middle ∧ Chain services middle more after := by
  induction events generalizing world with
  | nil => exact ⟨world, .nil world, h⟩
  | cons event events ih =>
      cases h with
      | call hCall hRest =>
          obtain ⟨middle, hFirst, hSecond⟩ := ih hRest
          exact ⟨middle, .call hCall hFirst, hSecond⟩
      | note hRest =>
          obtain ⟨middle, hFirst, hSecond⟩ := ih hRest
          exact ⟨middle, .note hFirst, hSecond⟩

/-- What no event changes is unchanged in the end. -/
theorem Chain.preserves {Value : Type} (view : World → Value)
    (h : Chain services world events after)
    (hEach : ∀ request result, .call request result ∈ events → ∀ world next,
      services request world = (result, next) → view next = view world) : view after = view world := by
  induction h with
  | nil => rfl
  | call hCall _ ih =>
      have hRest := ih fun request result hm => hEach request result (List.mem_cons_of_mem _ hm)
      exact hRest.trans (hEach _ _ List.mem_cons_self _ _ hCall)
  | note _ ih => exact ih fun request result hm => hEach request result (List.mem_cons_of_mem _ hm)

/-- Since the start, events of this language have been said. -/
def Said (services : Services Request Reply World Error)
    (start : Transcript Request Reply World Error Note)
    (language : Language (Event Request Reply Error Note))
    (transcript : Transcript Request Reply World Error Note) : Prop :=
  ∃ events ∈ language, transcript.events = start.events ++ events ∧
    Chain services start.world events transcript.world

/-- A program that, after events of one language, has said events of another one
when it returns, and of a third one when it throws. -/
def Tells (services : Services Request Reply World Error)
    (before : Language (Event Request Reply Error Note))
    (program : Talk Request Reply World Error Note Value)
    (returned : Value → Language (Event Request Reply Error Note))
    (threw : Language (Event Request Reply Error Note)) : Prop :=
  ∀ start, Triple Plan.healthy (Said services start before) program
    ⟨fun value => Said services start (returned value), fun _ => Said services start threw,
      fun _ => False⟩

/-- A request that was answered with this reply. -/
def heard (request : Request) (reply : Reply request) : Language (Event Request Reply Error Note) :=
  {[.call request (.ok reply)]}

/-- A request that failed. -/
def refused (request : Request) : Language (Event Request Reply Error Note) :=
  {events | ∃ error, events = [.call request (.error error)]}

section Only

variable {allowed allowed' : Event Request Reply Error Note → Prop}

/-- Nothing but such events. -/
def only (allowed : Event Request Reply Error Note → Prop) :
    Language (Event Request Reply Error Note) :=
  {events | ∀ event ∈ events, allowed event}

theorem one_le_only : 1 ≤ only allowed := by
  rintro _ rfl
  exact nofun

theorem mul_le_only {first second : Language (Event Request Reply Error Note)}
    (h : first ≤ only allowed) (h' : second ≤ only allowed) : first * second ≤ only allowed := by
  rintro _ ⟨events, hFirst, more, hSecond, rfl⟩ event hm
  rcases List.mem_append.mp hm with hm | hm
  · exact h hFirst event hm
  · exact h' hSecond event hm

theorem only_mono (h : ∀ event, allowed event → allowed' event) : only allowed ≤ only allowed' :=
  fun _ hOnly event hm => h event (hOnly event hm)

theorem heard_le_only (request : Request) (reply : Reply request)
    (h : allowed (.call request (.ok reply))) : heard request reply ≤ only allowed := by
  rintro _ rfl event hm
  rwa [List.mem_singleton.mp hm]

theorem refused_le_only (request : Request)
    (h : ∀ error, allowed (.call request (.error error))) :
    refused request ≤ only allowed := by
  rintro _ ⟨error, rfl⟩ event hm
  rw [List.mem_singleton.mp hm]
  exact h error

end Only

section Rules

variable {before before' threw threw' : Language (Event Request Reply Error Note)}
  {returned returned' : Value → Language (Event Request Reply Error Note)}
  {start transcript : Transcript Request Reply World Error Note}

theorem Said.mono (h : Said services start before transcript) (hLe : before ≤ before') :
    Said services start before' transcript := by
  obtain ⟨events, hm, hEvents, hChain⟩ := h
  exact ⟨events, hLe hm, hEvents, hChain⟩

theorem Said.refl (services : Services Request Reply World Error)
    (start : Transcript Request Reply World Error Note) : Said services start 1 start :=
  ⟨[], Language.nil_mem_one, (List.append_nil _).symm, .nil _⟩

theorem Said.trans {transcript' : Transcript Request Reply World Error Note}
    (h : Said services start before transcript) (h' : Said services transcript before' transcript') :
    Said services start (before * before') transcript' := by
  obtain ⟨events, hm, hEvents, hChain⟩ := h
  obtain ⟨more, hMore, hEvents', hChain'⟩ := h'
  refine ⟨events ++ more, Language.append_mem_mul hm hMore, ?_, hChain.append hChain'⟩
  rw [hEvents', hEvents, List.append_assoc]

namespace Tells

variable {program : Talk Request Reply World Error Note Value}

theorem weaken (h : Tells services before program returned threw)
    (hReturned : ∀ value, returned value ≤ returned' value) (hThrew : threw ≤ threw') :
    Tells services before program returned' threw' :=
  fun start => (h start).consequence (fun _ hs => hs) (fun value _ hs => hs.mono (hReturned value))
    (fun _ _ hs => hs.mono hThrew) fun _ hs => hs

/-- What a program tells does not depend on what has been said before. -/
theorem frame (h : Tells services 1 program returned threw)
    (before : Language (Event Request Reply Error Note)) :
    Tells services before program (fun value => before * returned value) (before * threw) := by
  intro start
  refine Triple.pointwise fun transcript hSaid => ?_
  refine (h transcript).consequence (fun _ hEq => hEq ▸ Said.refl services transcript) ?_ ?_
    fun _ hs => hs
  · exact fun value _ hs => hSaid.trans hs
  · exact fun _ _ hs => hSaid.trans hs

/-- A program that does not throw, after anything. -/
theorem frame_safe (h : Tells services 1 program returned 0)
    (before : Language (Event Request Reply Error Note)) :
    Tells services before program (fun value => before * returned value) threw :=
  (h.frame before).weaken (fun _ => le_refl _) (by rw [mul_zero]; exact nofun)

theorem done (value : Value) (h : before ≤ returned value) :
    Tells services before (Async.done value) returned threw :=
  fun _ => Triple.done value fun _ hs => hs.mono h

theorem throwing (error : Error) (h : before ≤ threw) :
    Tells services before (Async.throwing error) returned threw :=
  fun _ => Triple.throwing error fun _ hs => hs.mono h

theorem ofExcept {result : Except Error Value}
    (hOk : ∀ value, result = .ok value → before ≤ returned value)
    (hError : ∀ error, result = .error error → before ≤ threw) :
    Tells services before (Async.ofExcept result) returned threw :=
  fun _ => Triple.ofExcept (fun value h _ hs => hs.mono (hOk value h))
    fun error h _ hs => hs.mono (hError error h)

theorem bind {first : Talk Request Reply World Error Note Value}
    {next : Value → Talk Request Reply World Error Note Next}
    {returned : Next → Language (Event Request Reply Error Note)}
    (middle : Value → Language (Event Request Reply Error Note))
    (hFirst : Tells services before first middle threw)
    (hNext : ∀ value, Tells services (middle value) (next value) returned threw) :
    Tells services before (first >>= next) returned threw :=
  fun start => Triple.bind (fun value => Said services start (middle value)) (hFirst start)
    fun value => hNext value start

theorem exchange (request : Request) :
    Tells services 1 (Async.exchange services request :
      Talk Request Reply World Error Note (Reply request)) (heard request) (refused request) := by
  intro start
  have hAsked {transcript : Transcript Request Reply World Error Note}
      (hs : Said services start 1 transcript) {result : Except Error (Reply request)}
      (h : (services request transcript.world).1 = result) :
      Said services start {[.call request result]}
        ⟨(services request transcript.world).2, transcript.events ++
          [.call request (services request transcript.world).1]⟩ := by
    obtain ⟨_, rfl, hEvents, hChain⟩ := hs
    refine ⟨[.call request result], rfl, ?_, ?_⟩
    · rw [hEvents, h, List.append_nil]
    · exact hChain.append (.call (by rw [← h]) (.nil _))
  refine Triple.call ?_ ?_ (fun _ _ _ cause => nomatch cause) nofun
  · exact fun transcript hs _ _ reply hReply => hAsked hs hReply
  · exact fun transcript hs error hError =>
      (hAsked hs hError).mono (fun _ hm => ⟨error, hm⟩)

theorem note (line : Note) :
    Tells services 1 (Async.note line) (fun _ => {[.note line]}) threw := by
  intro start
  refine Triple.modify _ fun transcript hs => Said.mono (hs.trans ?_) (one_mul _).le
  exact ⟨[.note line], rfl, rfl, .note (.nil _)⟩

theorem catching {body : Talk Request Reply World Error Note Value}
    {handler : Error → Talk Request Reply World Error Note Value}
    (escaped : Language (Event Request Reply Error Note))
    (hBody : Tells services before body returned escaped)
    (hHandler : ∀ error, Tells services escaped (handler error) returned threw) :
    Tells services before (Async.catching body handler) returned threw :=
  fun start => Triple.catching (fun _ => Said services start escaped) (hBody start)
    fun error => hHandler error start

/-- A program whose first result is kept for a clean-up. Before it is there, and
also if it is refused, the clean-up sees the initial variables. -/
theorem finallyWith {first : Talk Request Reply World Error Note Value}
    {rest : Value → Talk Request Reply World Error Note Next} {initial : Local}
    {update : Value → Local} {cleanup : Local → Talk Request Reply World Error Note Unit}
    {without : Language (Event Request Reply Error Note)}
    {made broken : Value → Language (Event Request Reply Error Note)}
    {finished : Value → Next → Language (Event Request Reply Error Note)}
    {returned : Next → Language (Event Request Reply Error Note)}
    (hFirst : Tells services before first made without)
    (hRest : ∀ value, Tells services (made value) (rest value) (finished value) (broken value))
    (hWithout : Tells services without (cleanup initial) (fun _ => threw) threw)
    (hFinished : ∀ value next, Tells services (finished value next) (cleanup (update value))
      (fun _ => returned next) threw)
    (hBroken : ∀ value, Tells services (broken value) (cleanup (update value)) (fun _ => threw) threw) :
    Tells services before (Async.finallyWith initial (do
        let value ← Async.lift first
        Async.assign fun _ => update value
        Async.lift (rest value)) cleanup) returned threw := by
  intro start
  refine Triple.finallyWith
    (fun vars next transcript => ∃ value, vars = update value ∧
      Said services start (finished value next) transcript)
    (fun vars _ transcript => (vars = initial ∧ Said services start without transcript) ∨
      ∃ value, vars = update value ∧ Said services start (broken value) transcript) ?_ ?_ ?_
  · refine Triple.bind (fun value st => Said services start (made value) st.1 ∧ st.2 = initial)
      (Triple.lift initial ((hFirst start).consequence (fun _ hs => hs) (fun _ _ hs => ⟨hs, rfl⟩)
        (fun _ _ hs => Or.inl ⟨rfl, hs⟩) fun _ hs => hs)) fun value => ?_
    refine Triple.bind (fun _ st => Said services start (made value) st.1 ∧ st.2 = update value)
      (Triple.assign _ fun _ _ hs => ⟨hs.1, rfl⟩) fun _ => ?_
    exact Triple.lift (update value) ((hRest value start).consequence (fun _ hs => hs)
      (fun _ _ hs => ⟨value, rfl, hs⟩) (fun _ _ hs => Or.inr ⟨value, rfl, hs⟩) fun _ hs => hs)
  · rintro vars next
    refine Triple.pointwise fun transcript ⟨value, hVars, hs⟩ => ?_
    subst hVars
    exact (hFinished value next start).strengthen fun _ hEq => hEq ▸ hs
  · rintro vars error
    refine Triple.pointwise fun transcript hs => ?_
    rcases hs with ⟨rfl, hs⟩ | ⟨value, rfl, hs⟩
    · exact (hWithout start).strengthen fun _ hEq => hEq ▸ hs
    · exact (hBroken value start).strengthen fun _ hEq => hEq ▸ hs

/-- What one run tells. -/
theorem run (h : Tells services 1 program returned threw) (calls : Nat)
    (start : Transcript Request Reply World Error Note) :
    let run := program Plan.healthy calls start
    (∃ value, run.outcome = .returned value ∧ Said services start (returned value) run.state) ∨
      ((∃ error, run.outcome = .threw error) ∧ Said services start threw run.state) := by
  intro run
  have hTriple : Triple Plan.healthy (· = start) program _ :=
    (h start).strengthen fun _ hEq => hEq ▸ Said.refl services start
  obtain hReturned | ⟨error, hThrew, hs⟩ | ⟨_, hNever⟩ := hTriple.ends calls
  · exact Or.inl hReturned
  · exact Or.inr ⟨⟨error, hThrew⟩, hs⟩
  · exact hNever.elim

end Tells

end Rules

end Execution
