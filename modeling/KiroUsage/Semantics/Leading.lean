import KiroUsage.Semantics.Transcript

/-! Where events lead. A language of transcripts relates the states of the services
before and after them, and a product of languages a state in between. -/
namespace Execution

variable {Request : Type} {Reply : Request → Type} {World Error Note : Type}
  {services : Services Request Reply World Error} {world middle after : World}
  {events more : List (Event Request Reply Error Note)}

/-- Each call along the events meets this, from the state before it to the state
after it. -/
def Each (services : Services Request Reply World Error)
    (meets : (request : Request) → Except Error (Reply request) → World → World → Prop) :
    World → List (Event Request Reply Error Note) → Prop
  | _, [] => True
  | world, .call request result :: events =>
    meets request result world (services request world).2 ∧
      Each services meets (services request world).2 events
  | world, .note _ :: events => Each services meets world events

/-- The services lead from one state to another by events of a language, each call
of which meets this. -/
def Leads (services : Services Request Reply World Error)
    (meets : (request : Request) → Except Error (Reply request) → World → World → Prop)
    (language : Language (Event Request Reply Error Note)) (world after : World) : Prop :=
  ∃ events ∈ language, Chain services world events after ∧ Each services meets world events

/-- No call with this result changes what is viewed. -/
def Preserves {Value : Type} (services : Services Request Reply World Error) (view : World → Value) :
    Event Request Reply Error Note → Prop
  | .call request result => ∀ world next, services request world = (result, next) →
      view next = view world
  | .note _ => True

variable {meets : (request : Request) → Except Error (Reply request) → World → World → Prop}
  {first second : Language (Event Request Reply Error Note)}

theorem each_of_mem (h : ∀ request result, .call request result ∈ events →
    ∀ world next, meets request result world next) : Each services meets world events := by
  induction events generalizing world with
  | nil => trivial
  | cons event events ih =>
      have hRest := fun request result hm => h request result (List.mem_cons_of_mem _ hm)
      cases event with
      | call request result => exact ⟨h _ _ List.mem_cons_self _ _, ih hRest⟩
      | note line => exact ih hRest

theorem Each.split (h : Each services meets world (events ++ more))
    (hChain : Chain services world events middle) :
    Each services meets world events ∧ Each services meets middle more := by
  induction hChain with
  | nil => exact ⟨trivial, h⟩
  | call hCall _ ih =>
      obtain ⟨hMeets, hRest⟩ := h
      rw [hCall] at hRest
      obtain ⟨hEvents, hMore⟩ := ih hRest
      exact ⟨⟨hMeets, by rwa [hCall]⟩, hMore⟩
  | note _ ih => exact ih h

namespace Leads

theorem mul (h : Leads services meets (first * second) world after) :
    ∃ middle, Leads services meets first world middle ∧ Leads services meets second middle after := by
  obtain ⟨_, ⟨events, hFirst, more, hSecond, rfl⟩, hChain, hEach⟩ := h
  obtain ⟨middle, hBefore, hAfter⟩ := hChain.split
  obtain ⟨hEvents, hMore⟩ := hEach.split hBefore
  exact ⟨middle, ⟨events, hFirst, hBefore, hEvents⟩, more, hSecond, hAfter, hMore⟩

theorem add (h : Leads services meets (first + second) world after) :
    Leads services meets first world after ∨ Leads services meets second world after := by
  obtain ⟨events, hm | hm, hChain⟩ := h
  · exact Or.inl ⟨events, hm, hChain⟩
  · exact Or.inr ⟨events, hm, hChain⟩

theorem iSup {Index : Type} {language : Index → Language (Event Request Reply Error Note)}
    (h : Leads services meets (⨆ index, language index) world after) :
    ∃ index, Leads services meets (language index) world after := by
  obtain ⟨events, hm, hChain⟩ := h
  obtain ⟨index, hm⟩ := Language.mem_iSup.mp hm
  exact ⟨index, events, hm, hChain⟩

theorem one (h : Leads services meets (1 : Language (Event Request Reply Error Note)) world after) :
    after = world := by
  obtain ⟨_, rfl, hChain, _⟩ := h
  cases hChain
  rfl

theorem call {request : Request} {result : Except Error (Reply request)}
    (h : Leads services meets ({[.call request result]} : Language (Event Request Reply Error Note))
      world after) :
    services request world = (result, after) ∧ meets request result world after := by
  obtain ⟨_, rfl, hChain, hMeets, _⟩ := h
  cases hChain with
  | call hCall hRest =>
      cases hRest
      rw [hCall] at hMeets
      exact ⟨hCall, hMeets⟩

theorem refused {request : Request} (h : Leads services meets
      (Execution.refused request : Language (Event Request Reply Error Note)) world after) :
    ∃ error, services request world = (.error error, after) ∧
      meets request (.error error) world after := by
  obtain ⟨_, ⟨error, rfl⟩, hChain⟩ := h
  exact ⟨error, call ⟨_, rfl, hChain⟩⟩

/-- What no event of the language changes is unchanged in the end. -/
theorem preserves {Value : Type} {view : World → Value} (h : Leads services meets first world after)
    (hLe : first ≤ only (Preserves services view)) : view after = view world := by
  obtain ⟨events, hm, hChain, _⟩ := h
  exact hChain.preserves view fun request result hEvent => hLe hm _ hEvent

end Leads

end Execution
