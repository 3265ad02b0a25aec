import KiroUsage.Semantics.Execution
import Mathlib.Data.List.Induction

/-! Loops that go on whatever an item gives. Two runs of one loop are compared,
the second over fewer items. -/
namespace Execution

namespace Async

variable {Request Failure State Error Value Next Item Out : Type}

/-- Run the body on one item after the other and collect what it gives. -/
def collect (body : Item → Async Request Failure State Error Out) :
    List Item → Async Request Failure State Error (List Out)
  | [] => done []
  | item :: rest => andThen (body item) fun out => andThen (collect body rest) fun outs =>
      done (out :: outs)

variable {plan : Plan Request Failure} {calls : Nat} {state : State}

theorem andThen_of_returned {first : Async Request Failure State Error Value}
    {next : Value → Async Request Failure State Error Next} {value : Value}
    (h : (first plan calls state).outcome = .returned value) :
    andThen first next plan calls state =
      next value plan (first plan calls state).calls (first plan calls state).state := by
  unfold andThen
  rcases hRun : first plan calls state with ⟨outcome, calls', after⟩
  rw [hRun] at h
  cases h
  rfl

theorem andThen_of_threw {first : Async Request Failure State Error Value}
    {next : Value → Async Request Failure State Error Next} {error : Error}
    (h : (first plan calls state).outcome = .threw error) :
    andThen first next plan calls state =
      ⟨.threw error, (first plan calls state).calls, (first plan calls state).state⟩ := by
  unfold andThen
  rcases hRun : first plan calls state with ⟨outcome, calls', after⟩
  rw [hRun] at h
  cases h
  rfl

theorem catching_of_returned {body : Async Request Failure State Error Value}
    {handler : Error → Async Request Failure State Error Value} {value : Value}
    (h : (body plan calls state).outcome = .returned value) :
    catching body handler plan calls state = body plan calls state := by
  unfold catching
  rcases hRun : body plan calls state with ⟨outcome, calls', after⟩
  rw [hRun] at h
  cases h
  rfl

theorem catching_of_threw {body : Async Request Failure State Error Value}
    {handler : Error → Async Request Failure State Error Value} {error : Error}
    (h : (body plan calls state).outcome = .threw error) :
    catching body handler plan calls state =
      handler error plan (body plan calls state).calls (body plan calls state).state := by
  unfold catching
  rcases hRun : body plan calls state with ⟨outcome, calls', after⟩
  rw [hRun] at h
  cases h
  rfl

/-- A pure step at the end changes neither the calls nor the state. -/
theorem andThen_done (first : Async Request Failure State Error Value) (view : Value → Next) :
    let run := andThen first (fun value => done (view value)) plan calls state
    run.calls = (first plan calls state).calls ∧ run.state = (first plan calls state).state := by
  intro run
  unfold run andThen
  rcases first plan calls state with ⟨outcome, calls', after⟩
  cases outcome with
  | returned value => exact ⟨rfl, rfl⟩
  | threw error => exact ⟨rfl, rfl⟩
  | killed => exact ⟨rfl, rfl⟩

theorem attempt_of_returned {body : Async Request Failure State Error Unit}
    (h : (body plan calls state).outcome = .returned ()) :
    attempt body plan calls state =
      ⟨.returned none, (body plan calls state).calls, (body plan calls state).state⟩ := by
  unfold attempt catching
  rw [andThen_of_returned h]
  rfl

theorem attempt_of_threw {body : Async Request Failure State Error Unit} {error : Error}
    (h : (body plan calls state).outcome = .threw error) :
    attempt body plan calls state =
      ⟨.returned (some error), (body plan calls state).calls, (body plan calls state).state⟩ := by
  unfold attempt catching
  rw [andThen_of_threw h]
  rfl

theorem andThen_assoc {Last : Type} (first : Async Request Failure State Error Value)
    (next : Value → Async Request Failure State Error Next)
    (last : Next → Async Request Failure State Error Last) :
    andThen (andThen first next) last = andThen first fun value => andThen (next value) last := by
  funext plan calls state
  unfold andThen
  rcases first plan calls state with ⟨outcome, calls', after⟩
  cases outcome with
  | returned value => rfl
  | threw error => rfl
  | killed => rfl

/-- One more item at the end. -/
theorem collect_concat (body : Item → Async Request Failure State Error Out) (items : List Item)
    (item : Item) :
    collect body (items ++ [item]) =
      andThen (collect body items) fun outs => andThen (body item) fun out => done (outs ++ [out]) := by
  induction items with
  | nil => rfl
  | cons first rest ih =>
      change andThen (body first) _ = andThen (andThen (body first) _) _
      rw [andThen_assoc]
      congr 1
      funext out
      rw [List.append_eq, ih, andThen_assoc, andThen_assoc]
      congr 1
      funext outs
      rw [andThen_assoc]
      rfl

/-- A loop all of whose items return, returns. -/
theorem collect_concat_returned {body : Item → Async Request Failure State Error Out}
    {items : List Item} {item : Item} {outs : List Out} {out : Out}
    (hItems : (collect body items plan calls state).outcome = .returned outs)
    (hItem : (body item plan (collect body items plan calls state).calls
      (collect body items plan calls state).state).outcome = .returned out) :
    let turn := collect body items plan calls state
    let run := body item plan turn.calls turn.state
    collect body (items ++ [item]) plan calls state =
      ⟨.returned (outs ++ [out]), run.calls, run.state⟩ := by
  intro turn run
  rw [collect_concat, andThen_of_returned hItems, andThen_of_returned hItem]
  rfl

/-- A loop whose items all return under an invariant, and what they give. -/
theorem collect_returns {body : Item → Async Request Failure State Error Out}
    (invariant : State → Prop) (gives : Item → Out → Prop) {items : List Item}
    (hBody : ∀ item ∈ items, ∀ calls state, invariant state →
      let run := body item plan calls state
      invariant run.state ∧ ∃ out, run.outcome = .returned out ∧ gives item out)
    (hStart : invariant state) :
    let run := collect body items plan calls state
    invariant run.state ∧ ∃ outs, run.outcome = .returned outs ∧ List.Forall₂ gives items outs := by
  induction items generalizing calls state with
  | nil => exact ⟨hStart, [], rfl, .nil⟩
  | cons item rest ih =>
      obtain ⟨hAfter, out, hOut, hGives⟩ := hBody item List.mem_cons_self calls state hStart
      obtain ⟨hEnd, outs, hOuts, hAll⟩ :=
        ih (fun other hm => hBody other (List.mem_cons_of_mem item hm)) hAfter
      intro run
      rw [show run = _ from Async.andThen_of_returned hOut, Async.andThen_of_returned hOuts]
      exact ⟨hEnd, out :: outs, rfl, .cons hGives hAll⟩

/-- The second run leaves out the marked items. If a marked item keeps the
states related and any other item makes both runs take related steps, the runs
end in related states. The turn of an item is where the loop over the items
before it ends. -/
theorem collect_simulates {body : Item → Async Request Failure State Error Out}
    {plan' : Plan Request Failure} {related : State → State → Prop} {calls' : Nat} {state' : State}
    (marked : List (Item × Bool)) (hStart : related state state')
    (hStep : ∀ before item removed after, marked = before ++ (item, removed) :: after →
      let turn := collect body (before.map Prod.fst) plan calls state
      let run := body item plan turn.calls turn.state
      ∀ calls' turn', related turn.state turn' →
        (∃ out, run.outcome = .returned out) ∧
        if removed then related run.state turn'
        else
          let run' := body item plan' calls' turn'
          (∃ out, run'.outcome = .returned out) ∧ related run.state run'.state) :
    let run := collect body (marked.map Prod.fst) plan calls state
    let run' := collect body ((marked.filter fun entry => !entry.2).map Prod.fst) plan' calls' state'
    (∃ outs, run.outcome = .returned outs) ∧ (∃ outs, run'.outcome = .returned outs) ∧
      related run.state run'.state := by
  induction marked using List.reverseRecOn with
  | nil => exact ⟨⟨[], rfl⟩, ⟨[], rfl⟩, hStart⟩
  | append_singleton before entry ih =>
      obtain ⟨item, removed⟩ := entry
      obtain ⟨⟨outs, hOuts⟩, ⟨outs', hOuts'⟩, hRelated⟩ := ih fun before' item' removed' after hSplit =>
        hStep before' item' removed' (after ++ [(item, removed)]) (by rw [hSplit]; simp)
      obtain ⟨⟨out, hOut⟩, hItem⟩ := hStep before item removed [] rfl _ _ hRelated
      intro run run'
      have hRun : run = collect body (before.map Prod.fst ++ [item]) plan calls state := by simp [run]
      rw [hRun, collect_concat_returned hOuts hOut]
      cases removed with
      | true =>
          have hRun' : run' = collect body ((before.filter fun entry => !entry.2).map Prod.fst) plan'
              calls' state' := by simp [run']
          rw [hRun']
          exact ⟨⟨_, rfl⟩, ⟨outs', hOuts'⟩, hItem⟩
      | false =>
          obtain ⟨⟨out', hOut'⟩, hItem⟩ := hItem
          have hRun' : run' = collect body (((before.filter fun entry => !entry.2).map Prod.fst) ++
              [item]) plan' calls' state' := by simp [run']
          rw [hRun', collect_concat_returned hOuts' hOut']
          exact ⟨⟨_, rfl⟩, ⟨_, rfl⟩, hItem⟩

/-- The items of a loop can be marked as what goes before them says. -/
theorem exists_marked (bad : List Item → Item → Prop) (items : List Item) :
    ∃ marked : List (Item × Bool), marked.map Prod.fst = items ∧
      ∀ before item removed after, marked = before ++ (item, removed) :: after →
        (removed = true ↔ bad (before.map Prod.fst) item) := by
  classical
  induction items using List.reverseRecOn with
  | nil => exact ⟨[], rfl, fun before item removed after h => by simp at h⟩
  | append_singleton items last ih =>
      obtain ⟨marked, rfl, hMarked⟩ := ih
      refine ⟨marked ++ [(last, decide (bad (marked.map Prod.fst) last))], by simp, ?_⟩
      intro before item removed after hSplit
      rcases List.eq_nil_or_concat after with rfl | ⟨after', entry, rfl⟩
      · obtain ⟨rfl, hLast⟩ := List.append_inj' hSplit rfl
        cases hLast
        exact decide_eq_true_iff
      · rw [List.concat_eq_append, ← List.cons_append, ← List.append_assoc] at hSplit
        obtain ⟨rfl, _⟩ := List.append_inj' hSplit rfl
        exact hMarked before item removed after' rfl

theorem returned_of_andThen {first : Async Request Failure State Error Value}
    {next : Value → Async Request Failure State Error Next} {result : Next}
    (h : (andThen first next plan calls state).outcome = .returned result) :
    ∃ value, (first plan calls state).outcome = .returned value := by
  unfold andThen at h
  rcases hRun : first plan calls state with ⟨outcome, calls', after⟩
  rw [hRun] at h
  cases outcome with
  | returned value => exact ⟨value, rfl⟩
  | threw error => cases h
  | killed => cases h

/-- What a loop has collected is what its items gave at their turns. -/
theorem mem_collect {body : Item → Async Request Failure State Error Out} {items : List Item}
    {outs : List Out} (h : (collect body items plan calls state).outcome = .returned outs) {out : Out} :
    out ∈ outs ↔ ∃ before item after, items = before ++ item :: after ∧
      let turn := collect body before plan calls state
      (body item plan turn.calls turn.state).outcome = .returned out := by
  induction items using List.reverseRecOn generalizing outs with
  | nil =>
      cases h
      simp
  | append_singleton before last ih =>
      rw [collect_concat] at h
      obtain ⟨prior, hPrior⟩ := returned_of_andThen h
      rw [andThen_of_returned hPrior] at h
      obtain ⟨final, hFinal⟩ := returned_of_andThen h
      rw [andThen_of_returned hFinal] at h
      cases h
      rw [List.mem_append, ih hPrior, List.mem_singleton]
      constructor
      · rintro (⟨before', item, after, rfl, hOut⟩ | rfl)
        · exact ⟨before', item, after ++ [last], by simp, hOut⟩
        · exact ⟨before, last, [], rfl, hFinal⟩
      · rintro ⟨before', item, after, hSplit, hOut⟩
        rcases List.eq_nil_or_concat after with rfl | ⟨after', last', rfl⟩
        · obtain ⟨rfl, hLast⟩ := List.append_inj' hSplit rfl
          cases hLast
          exact Or.inr (Outcome.returned.inj (hOut.symm.trans hFinal))
        · rw [List.concat_eq_append, ← List.cons_append, ← List.append_assoc] at hSplit
          obtain ⟨rfl, _⟩ := List.append_inj' hSplit rfl
          exact Or.inl ⟨before', item, after', rfl, hOut⟩

end Async

end Execution
