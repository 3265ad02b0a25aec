import Mathlib.Data.List.Basic

/-! Messages that are delivered at least once. A handler may send further
messages, and it may be tried any number of times. A message stays pending
until one of its attempts is acknowledged. -/
namespace Execution

/-- How messages are handled. All messages that were ever sent are on record. -/
structure Handling (State Message : Type) where
  initial : State → Prop
  sent : State → List Message
  attempt : State → Message → State → Prop
  acknowledged : State → Message → State → Prop
  other : State → State → Prop
  attempt_of_acknowledged : ∀ state message after,
    acknowledged state message after → attempt state message after

namespace Handling

variable {State Message : Type} (h : Handling State Message) (first : Message)

/-- The messages sent between two states. -/
def newly (state after : State) : List Message := (h.sent after).drop (h.sent state).length

/-- The states and the pending messages of all runs that begin with one
message. Pending messages are picked in any order. -/
inductive Runs : State → List Message → Prop
  | start {state : State} (hInitial : h.initial state) : Runs state [first]
  | attempt {state after : State} {message : Message} {pending : List Message}
      (hRun : Runs state pending) (hPending : message ∈ pending)
      (hAttempt : h.attempt state message after) : Runs after (pending ++ h.newly state after)
  | acknowledge {state after : State} {message : Message} {before rest : List Message}
      (hRun : Runs state (before ++ message :: rest))
      (hAcknowledged : h.acknowledged state message after) :
      Runs after (before ++ rest ++ h.newly state after)
  | other {state after : State} {pending : List Message} (hRun : Runs state pending)
      (hOther : h.other state after) : Runs after pending

/-- What lies between two states of a run: nothing that was sent is forgotten,
and nothing that was handled is undone. -/
structure Advances (Invariant : State → Prop) (Handled : State → Message → Prop)
    (state after : State) : Prop where
  invariant : Invariant after
  sent : h.sent state <+: h.sent after
  handled : ∀ message, Handled state message → Handled after message

/-- A notion of handled messages that acknowledgements establish and that
nothing undoes, under an invariant. -/
structure Reliable (Invariant : State → Prop) (Handled : State → Message → Prop) : Prop where
  initial : ∀ state, h.initial state → Invariant state ∧ h.sent state = []
  attempt : ∀ state message after, Invariant state → message ∈ first :: h.sent state →
    h.attempt state message after → h.Advances Invariant Handled state after
  acknowledged : ∀ state message after, Invariant state → message ∈ first :: h.sent state →
    h.acknowledged state message after → Handled after message
  other : ∀ state after, Invariant state → h.other state after →
    h.sent after = h.sent state ∧ h.Advances Invariant Handled state after

variable {h first} {Invariant : State → Prop} {Handled : State → Message → Prop}

theorem Advances.mem_sent {state after : State} (hStep : h.Advances Invariant Handled state after)
    {message : Message} :
    message ∈ h.sent after ↔ message ∈ h.sent state ∨ message ∈ h.newly state after := by
  obtain ⟨new, hNew⟩ := hStep.sent
  simp [newly, ← hNew]

theorem Advances.mem_first_sent {state after : State}
    (hStep : h.Advances Invariant Handled state after) {message : Message} :
    message ∈ first :: h.sent after ↔
      message ∈ first :: h.sent state ∨ message ∈ h.newly state after := by
  rw [List.mem_cons, List.mem_cons, hStep.mem_sent, or_assoc]

/-- In every run the invariant holds, only sent messages are pending, and every
message is pending or has been handled. -/
theorem Reliable.accounted (hReliable : h.Reliable first Invariant Handled) {state : State}
    {pending : List Message} (hRun : h.Runs first state pending) :
    Invariant state ∧ (∀ message ∈ pending, message ∈ first :: h.sent state) ∧
      ∀ message ∈ first :: h.sent state, message ∈ pending ∨ Handled state message := by
  induction hRun with
  | @start state hInitial =>
      obtain ⟨hInvariant, hSent⟩ := hReliable.initial state hInitial
      rw [hSent]
      exact ⟨hInvariant, fun _ hm => hm, fun _ hm => Or.inl hm⟩
  | @attempt state after message pending _ hPending hAttempt ih =>
      obtain ⟨hInvariant, hSent, hAll⟩ := ih
      have hStep := hReliable.attempt state message after hInvariant (hSent _ hPending) hAttempt
      refine ⟨hStep.invariant, fun other hOther => ?_, fun other hOther => ?_⟩
      · rw [hStep.mem_first_sent]
        exact (List.mem_append.mp hOther).imp_left (hSent other)
      · rw [List.mem_append]
        rcases hStep.mem_first_sent.mp hOther with hOld | hNew
        · exact (hAll other hOld).imp Or.inl (hStep.handled other)
        · exact Or.inl (Or.inr hNew)
  | @acknowledge state after message before rest _ hAcknowledged ih =>
      obtain ⟨hInvariant, hSent, hAll⟩ := ih
      have hMessage := hSent message (by simp)
      have hStep := hReliable.attempt state message after hInvariant hMessage
        (h.attempt_of_acknowledged _ _ _ hAcknowledged)
      have hHandled := hReliable.acknowledged state message after hInvariant hMessage hAcknowledged
      refine ⟨hStep.invariant, fun other hOther => ?_, fun other hOther => ?_⟩
      · rw [hStep.mem_first_sent]
        refine (List.mem_append.mp hOther).imp_left fun hOld => hSent other ?_
        simp only [List.mem_append, List.mem_cons] at hOld ⊢
        tauto
      · rw [List.mem_append]
        rcases hStep.mem_first_sent.mp hOther with hOld | hNew
        · rcases hAll other hOld with hPending | hDone
          · simp only [List.mem_append, List.mem_cons] at hPending ⊢
            rcases hPending with hBefore | rfl | hRest
            · exact Or.inl (Or.inl (Or.inl hBefore))
            · exact Or.inr hHandled
            · exact Or.inl (Or.inl (Or.inr hRest))
          · exact Or.inr (hStep.handled other hDone)
        · exact Or.inl (Or.inr hNew)
  | @other state after pending _ hOther ih =>
      obtain ⟨hInvariant, hSent, hAll⟩ := ih
      obtain ⟨hSame, hStep⟩ := hReliable.other state after hInvariant hOther
      rw [hSame]
      exact ⟨hStep.invariant, hSent, fun message hm => (hAll message hm).imp_right (hStep.handled _)⟩

/-- When nothing is pending, every message that was ever sent has been handled. -/
theorem Reliable.handled (hReliable : h.Reliable first Invariant Handled) {state : State}
    (hRun : h.Runs first state []) : ∀ message ∈ first :: h.sent state, Handled state message :=
  fun message hm => ((hReliable.accounted hRun).2.2 message hm).resolve_left nofun

/-- A notion of done items that acknowledgements establish. An attempt may undo only
items of its own message, which is still pending then. -/
structure Restoring {Item : Type} (h : Handling State Message) (first : Message)
    (Invariant : State → Prop) (Concerns : Message → Item → Prop) (Done : State → Item → Prop) :
    Prop where
  attempt : ∀ state message after, Invariant state → message ∈ first :: h.sent state →
    h.attempt state message after → ∀ item, Done state item → Done after item ∨ Concerns message item
  acknowledged : ∀ state message after, Invariant state → message ∈ first :: h.sent state →
    h.acknowledged state message after → ∀ item, Concerns message item → Done after item
  other : ∀ state after, Invariant state → h.other state after →
    ∀ item, Done state item → Done after item

/-- In every run an item of a message that was sent is done, or some pending message
still concerns it. -/
theorem Restoring.accounted {Item : Type} {Concerns : Message → Item → Prop}
    {Done : State → Item → Prop} (hRestoring : h.Restoring first Invariant Concerns Done)
    (hReliable : h.Reliable first Invariant Handled) {state : State} {pending : List Message}
    (hRun : h.Runs first state pending) :
    ∀ message ∈ first :: h.sent state, ∀ item, Concerns message item →
      Done state item ∨ ∃ other ∈ pending, Concerns other item := by
  induction hRun with
  | @start state hInitial =>
      intro message hm item hConcerns
      rw [(hReliable.initial state hInitial).2] at hm
      exact Or.inr ⟨message, hm, hConcerns⟩
  | @attempt state after message pending hRun hPending hAttempt ih =>
      obtain ⟨hInvariant, hSent, _⟩ := hReliable.accounted hRun
      have hStep := hReliable.attempt state message after hInvariant (hSent _ hPending) hAttempt
      intro message' hm item hConcerns
      rcases hStep.mem_first_sent.mp hm with hOld | hNew
      · rcases ih message' hOld item hConcerns with hDone | ⟨other, hOther, hItem⟩
        · rcases hRestoring.attempt state message after hInvariant (hSent _ hPending) hAttempt
            item hDone with hKept | hUndone
          · exact Or.inl hKept
          · exact Or.inr ⟨message, List.mem_append_left _ hPending, hUndone⟩
        · exact Or.inr ⟨other, List.mem_append_left _ hOther, hItem⟩
      · exact Or.inr ⟨message', List.mem_append_right _ hNew, hConcerns⟩
  | @acknowledge state after message before rest hRun hAcknowledged ih =>
      obtain ⟨hInvariant, hSent, _⟩ := hReliable.accounted hRun
      have hMessage := hSent message (by simp)
      have hAttempt := h.attempt_of_acknowledged _ _ _ hAcknowledged
      have hStep := hReliable.attempt state message after hInvariant hMessage hAttempt
      have hRestored := hRestoring.acknowledged state message after hInvariant hMessage hAcknowledged
      intro message' hm item hConcerns
      rcases hStep.mem_first_sent.mp hm with hOld | hNew
      · rcases ih message' hOld item hConcerns with hDone | ⟨other, hOther, hItem⟩
        · left
          exact (hRestoring.attempt state message after hInvariant hMessage hAttempt item hDone).elim
            id (hRestored item)
        · simp only [List.mem_append, List.mem_cons] at hOther
          rcases hOther with hBefore | rfl | hRest
          · exact Or.inr ⟨other, by simp [hBefore], hItem⟩
          · exact Or.inl (hRestored item hItem)
          · exact Or.inr ⟨other, by simp [hRest], hItem⟩
      · exact Or.inr ⟨message', List.mem_append_right _ hNew, hConcerns⟩
  | @other state after pending hRun hOther ih =>
      obtain ⟨hInvariant, _, _⟩ := hReliable.accounted hRun
      intro message hm item hConcerns
      rw [(hReliable.other state after hInvariant hOther).1] at hm
      exact (ih message hm item hConcerns).imp_left
        (hRestoring.other state after hInvariant hOther item)

/-- When nothing is pending, every item of every message is done. -/
theorem Restoring.restored {Item : Type} {Concerns : Message → Item → Prop}
    {Done : State → Item → Prop} (hRestoring : h.Restoring first Invariant Concerns Done)
    (hReliable : h.Reliable first Invariant Handled) {state : State} (hRun : h.Runs first state [])
    {message : Message} (hm : message ∈ first :: h.sent state) {item : Item}
    (hConcerns : Concerns message item) : Done state item := by
  rcases hRestoring.accounted hReliable hRun message hm item hConcerns with hDone | ⟨_, hNone, _⟩
  · exact hDone
  · cases hNone

end Handling

end Execution
