import Mathlib.Algebra.Group.Submonoid.Defs
import KiroUsage.Semantics.Invariant

/-! Programs that keep books. A view of the state into a monoid shows all that has
been booked so far. A program is judged by what it adds to the books on each way to
end, so that what is closed under products passes from the parts to the whole. -/
namespace Execution

variable {Request Failure State Error Value Next Local Item Book : Type} [Monoid Book]

/-- The error that a program ends with, if it ends with one. -/
def Outcome.escaped : Outcome Error Value → Option Error
  | threw error => some error
  | _ => none

/-- What must hold of the entries that come after these. -/
def Post.after (post : Post Book Error Value) (booked : Book) : Post Book Error Value where
  returned value entry := post.returned value (booked * entry)
  threw error entry := post.threw error (booked * entry)
  killed entry := post.killed (booked * entry)

/-- Since the start an entry with this property has been booked. -/
def Booked (view : State → Book) (start : State) (entries : Book → Prop) (state : State) : Prop :=
  ∃ entry, view state = view start * entry ∧ entries entry

/-- Wherever the program starts, it books what the postcondition says. -/
def Books (plan : Plan Request Failure) (view : State → Book)
    (program : Async Request Failure State Error Value) (post : Post Book Error Value) : Prop :=
  ∀ start, Triple plan (· = start) program
    ⟨fun value => Booked view start (post.returned value),
      fun error => Booked view start (post.threw error), Booked view start post.killed⟩

variable {plan : Plan Request Failure} {view : State → Book} {start middle state : State}
  {entries entries' : Book → Prop}

theorem Booked.mono (h : Booked view start entries state)
    (hEntries : ∀ entry, entries entry → entries' entry) : Booked view start entries' state := by
  obtain ⟨entry, hView, hEntry⟩ := h
  exact ⟨entry, hView, hEntries entry hEntry⟩

theorem Booked.trans {entry : Book} (h : view middle = view start * entry)
    (h' : Booked view middle (fun more => entries (entry * more)) state) :
    Booked view start entries state := by
  obtain ⟨more, hMore, hEntries⟩ := h'
  refine ⟨entry * more, ?_, hEntries⟩
  rw [hMore, h, mul_assoc]

namespace Books

variable {post : Post Book Error Value}

theorem weaken {program : Async Request Failure State Error Value} {post' : Post Book Error Value}
    (h : Books plan view program post')
    (hReturned : ∀ value entry, post'.returned value entry → post.returned value entry)
    (hThrew : ∀ error entry, post'.threw error entry → post.threw error entry)
    (hKilled : ∀ entry, post'.killed entry → post.killed entry) : Books plan view program post :=
  fun start => (h start).consequence (fun _ hs => hs) (fun value _ hs => hs.mono (hReturned value))
    (fun error _ hs => hs.mono (hThrew error)) fun _ hs => hs.mono hKilled

/-- After an entry, what a program adds comes behind it. -/
theorem continues {program : Async Request Failure State Error Value} {before : Book → Prop}
    (h : ∀ booked, before booked → Books plan view program (post.after booked)) (start : State) :
    Triple plan (Booked view start before) program
      ⟨fun value => Booked view start (post.returned value),
        fun error => Booked view start (post.threw error), Booked view start post.killed⟩ := by
  apply Triple.pointwise
  rintro state ⟨entry, hView, hEntry⟩
  exact (h entry hEntry state).consequence (fun _ hs => hs) (fun _ _ hs => hs.trans hView)
    (fun _ _ hs => hs.trans hView) fun _ hs => hs.trans hView

/-- A program that keeps every state of the books adds nothing to them. -/
theorem silent {program : Async Request Failure State Error Value}
    (h : ∀ booked, Keeps plan (fun state => view state = booked) program)
    (hReturned : ∀ value, post.returned value 1) (hThrew : ∀ error, post.threw error 1)
    (hKilled : post.killed 1) : Books plan view program post := by
  intro start
  have hNothing {entries : Book → Prop} (hEntries : entries 1) {state : State}
      (hs : view state = view start) : Booked view start entries state :=
    ⟨1, by rw [hs, mul_one], hEntries⟩
  exact (h (view start)).consequence (fun _ hs => congrArg view hs)
    (fun value _ => hNothing (hReturned value)) (fun error _ => hNothing (hThrew error))
    fun _ => hNothing hKilled

theorem done (value : Value) (h : post.returned value 1) :
    Books plan view (Async.done value : Async Request Failure State Error Value) post :=
  fun _ => Triple.done value fun _ hs => ⟨1, by rw [hs, mul_one], h⟩

theorem throwing (error : Error) (h : post.threw error 1) :
    Books plan view (Async.throwing error : Async Request Failure State Error Value) post :=
  fun _ => Triple.throwing error fun _ hs => ⟨1, by rw [hs, mul_one], h⟩

/-- An update that books an entry. -/
theorem modify {post : Post Book Error Unit} {update : State → State} (entry : Book)
    (hUpdate : ∀ state, view (update state) = view state * entry) (h : post.returned () entry) :
    Books plan view (Async.modify update : Async Request Failure State Error Unit) post :=
  fun _ => Triple.modify update fun state hs => ⟨entry, hs ▸ hUpdate state, h⟩

/-- A call whose effect is an entry. It may have had its effect and fail. -/
theorem call {raise : Failure → Error} {request : Request}
    {action : State → Except Error Value × State} (entry : Book)
    (hAction : ∀ state, view (action state).2 = view state * entry)
    (hReturned : ∀ value, post.returned value entry) (hThrew : ∀ error, post.threw error entry)
    (hLost : ∀ error, post.threw error 1) (hKilled : post.killed 1) :
    Books plan view (Async.call raise request action) post := by
  intro start
  refine Triple.call ?_ ?_ ?_ ?_
  · exact fun state hs _ _ value _ => ⟨entry, hs ▸ hAction state, hReturned value⟩
  · exact fun state hs error _ => ⟨entry, hs ▸ hAction state, hThrew error⟩
  · intro state hs calls cause applied _
    cases applied with
    | false => exact ⟨1, by rw [mul_one, ← hs]; rfl, hLost _⟩
    | true => exact ⟨entry, hs ▸ hAction state, hThrew _⟩
  · exact fun state hs _ _ => ⟨1, by rw [hs, mul_one], hKilled⟩

theorem bind {first : Async Request Failure State Error Value}
    {next : Value → Async Request Failure State Error Next} {post : Post Book Error Next}
    (middle : Value → Book → Prop)
    (hFirst : Books plan view first ⟨middle, post.threw, post.killed⟩)
    (hNext : ∀ value booked, middle value booked → Books plan view (next value) (post.after booked)) :
    Books plan view (first >>= next) post :=
  fun start => Triple.bind (fun value => Booked view start (middle value)) (hFirst start)
    fun value => continues (hNext value) start

/-- A program that adds nothing, before one that does. -/
theorem silent_bind {first : Async Request Failure State Error Value}
    {next : Value → Async Request Failure State Error Next} {post : Post Book Error Next}
    (hFirst : ∀ booked, Keeps plan (fun state => view state = booked) first)
    (hThrew : ∀ error, post.threw error 1) (hKilled : post.killed 1)
    (hNext : ∀ value, Books plan view (next value) post) :
    Books plan view (first >>= next) post := by
  apply bind fun _ entry => entry = 1
  · exact silent hFirst (fun _ => rfl) hThrew hKilled
  · rintro value _ rfl
    simpa only [Post.after, one_mul] using hNext value

theorem catching {body : Async Request Failure State Error Value}
    {handler : Error → Async Request Failure State Error Value} (escaped : Error → Book → Prop)
    (hBody : Books plan view body ⟨post.returned, escaped, post.killed⟩)
    (hHandler : ∀ error booked, escaped error booked →
      Books plan view (handler error) (post.after booked)) :
    Books plan view (Async.catching body handler) post :=
  fun start => Triple.catching (fun error => Booked view start (escaped error)) (hBody start)
    fun error => continues (hHandler error) start

theorem attempt {body : Async Request Failure State Error Unit} {post : Post Book Error (Option Error)}
    (h : Books plan view body
      ⟨fun _ => post.returned none, fun error => post.returned (some error), post.killed⟩) :
    Books plan view (Async.attempt body) post :=
  fun start => Triple.attempt (h start)

/-- Local variables are not booked. -/
theorem lift {program : Async Request Failure State Error Value} (h : Books plan view program post) :
    Books plan (fun state : State × Local => view state.1) (Async.lift program) post := by
  intro start
  apply Triple.strengthen (Triple.lift start.2 (h start.1))
  rintro _ rfl
  exact ⟨rfl, rfl⟩

/-- A loop books products of what its turns book. -/
theorem forEach {items : List Item} {body : Item → Async Request Failure State Error Unit}
    {post : Post Book Error Unit} (turns : Submonoid Book)
    (hBody : ∀ item, ∀ booked ∈ turns, Books plan view (body item)
      ⟨fun _ entry => entry ∈ turns, (post.after booked).threw, (post.after booked).killed⟩)
    (hEnd : ∀ entry ∈ turns, post.returned () entry) :
    Books plan view (Async.forEach items body) post := by
  suffices h : ∀ booked ∈ turns, Books plan view (Async.forEach items body) (post.after booked) by
    exact (h 1 turns.one_mem).weaken (fun _ entry h => one_mul entry ▸ h)
      (fun _ entry h => one_mul entry ▸ h) fun entry h => one_mul entry ▸ h
  induction items with
  | nil => exact fun booked hBooked => done () (hEnd _ (turns.mul_mem hBooked turns.one_mem))
  | cons item rest ih =>
      intro booked hBooked
      apply bind (fun _ entry => entry ∈ turns) (hBody item booked hBooked)
      intro _ entry hEntry
      have hRest := ih (booked * entry) (turns.mul_mem hBooked hEntry)
      simpa only [Post.after, mul_assoc] using hRest

end Books

/-- What one run books, by the way it ends. -/
theorem Books.run {program : Async Request Failure State Error Value} {post : Post Book Error Value}
    (h : Books plan view program post) (calls : Nat) (start : State) :
    (program plan calls start).Meets
      ⟨fun value => Booked view start (post.returned value),
        fun error => Booked view start (post.threw error), Booked view start post.killed⟩ :=
  (h start).run calls

end Execution
