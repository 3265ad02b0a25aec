import KiroUsage.Semantics.Delivery
import Mathlib.Data.List.Perm.Basic

/-! Messages with a limited number of attempts. A message whose attempts are used up, or
that has waited too long, becomes a dead letter. Dead letters may be sent again. Such a
queue is one that delivers at least once, if its dead letters count as pending. -/
namespace Execution.Handling

variable {State Message : Type} (h : Handling State Message) (first : Message) (maximum : Nat)

/-- The states, the pending messages with the attempts they have used, and the dead
letters of all runs that begin with one message. -/
inductive LimitedRuns : State → List (Message × Nat) → List Message → Prop
  | start {state : State} (hInitial : h.initial state) : LimitedRuns state [(first, 0)] []
  | retry {state after : State} {before rest : List (Message × Nat)} {message : Message}
      {used : Nat} {dead : List Message}
      (hRun : LimitedRuns state (before ++ (message, used) :: rest) dead)
      (hAttempt : h.attempt state message after) (hMore : used + 1 < maximum) :
      LimitedRuns after
        (before ++ rest ++ (message, used + 1) :: (h.newly state after).map (·, 0)) dead
  | exhaust {state after : State} {before rest : List (Message × Nat)} {message : Message}
      {used : Nat} {dead : List Message}
      (hRun : LimitedRuns state (before ++ (message, used) :: rest) dead)
      (hAttempt : h.attempt state message after) (hLast : maximum ≤ used + 1) :
      LimitedRuns after (before ++ rest ++ (h.newly state after).map (·, 0)) (dead ++ [message])
  | expire {state : State} {before rest : List (Message × Nat)} {message : Message} {used : Nat}
      {dead : List Message} (hRun : LimitedRuns state (before ++ (message, used) :: rest) dead) :
      LimitedRuns state (before ++ rest) (dead ++ [message])
  | acknowledge {state after : State} {before rest : List (Message × Nat)} {message : Message}
      {used : Nat} {dead : List Message}
      (hRun : LimitedRuns state (before ++ (message, used) :: rest) dead)
      (hAcknowledged : h.acknowledged state message after) :
      LimitedRuns after (before ++ rest ++ (h.newly state after).map (·, 0)) dead
  | redrive {state : State} {pending : List (Message × Nat)} {message : Message}
      {before rest : List Message} (hRun : LimitedRuns state pending (before ++ message :: rest)) :
      LimitedRuns state (pending ++ [(message, 0)]) (before ++ rest)
  | other {state after : State} {pending : List (Message × Nat)} {dead : List Message}
      (hRun : LimitedRuns state pending dead) (hOther : h.other state after) :
      LimitedRuns after pending dead

/-- The messages that are not settled yet. -/
def unsettled (pending : List (Message × Nat)) (dead : List Message) : List Message :=
  pending.map Prod.fst ++ dead

variable {h first maximum} {state : State} {pending before rest : List (Message × Nat)}
  {dead waiting new : List Message} {message : Message} {used : Nat}

theorem mem_unsettled :
    message ∈ unsettled pending dead ↔ message ∈ pending.map Prod.fst ∨ message ∈ dead :=
  List.mem_append

/-- A pending message stands before all others that are not settled. -/
theorem unsettled_perm_cons :
    (unsettled (before ++ (message, used) :: rest) dead).Perm
      (message :: unsettled (before ++ rest) dead) := by
  simp only [unsettled, List.map_append, List.map_cons, List.append_assoc, List.cons_append]
  exact List.perm_middle

theorem unsettled_perm_dead :
    (unsettled pending (dead ++ [message])).Perm (message :: unsettled pending dead) := by
  rw [unsettled, ← List.append_assoc]
  exact List.perm_append_singleton message _

/-- New messages join those that are not settled. -/
theorem unsettled_perm_append (pending : List (Message × Nat)) (dead : List Message)
    (more : List (Message × Nat)) :
    (unsettled (pending ++ more) dead).Perm (unsettled pending dead ++ more.map Prod.fst) := by
  simp only [unsettled, List.map_append, List.append_assoc]
  exact List.perm_append_comm.append_left _

theorem map_fst_new (messages : List Message) :
    (messages.map fun message => (message, 0)).map Prod.fst = messages := by
  rw [List.map_map]
  exact List.map_id messages

/-- The refinement. What the limited queue does to its messages, a queue that delivers at
least once does to those that are not settled. -/
theorem LimitedRuns.runs (hRun : h.LimitedRuns first maximum state pending dead) :
    ∃ waiting, h.Runs first state waiting ∧ waiting.Perm (unsettled pending dead) := by
  induction hRun with
  | start hInitial => exact ⟨[first], .start hInitial, List.Perm.refl _⟩
  | @retry state after before rest message used dead _ hAttempt _ ih =>
      obtain ⟨waiting, hRuns, hPerm⟩ := ih
      have hMoved := hPerm.trans unsettled_perm_cons
      refine ⟨_, hRuns.attempt (hMoved.mem_iff.mpr List.mem_cons_self) hAttempt, ?_⟩
      have hJoin := unsettled_perm_append (before ++ rest) dead
        ((message, used + 1) :: (h.newly state after).map (·, 0))
      rw [List.map_cons, map_fst_new] at hJoin
      exact (hMoved.append_right _).trans (List.perm_middle.symm.trans hJoin.symm)
  | @exhaust state after before rest message used dead _ hAttempt _ ih =>
      obtain ⟨waiting, hRuns, hPerm⟩ := ih
      have hMoved := hPerm.trans unsettled_perm_cons
      refine ⟨_, hRuns.attempt (hMoved.mem_iff.mpr List.mem_cons_self) hAttempt, ?_⟩
      have hJoin := unsettled_perm_append (before ++ rest) dead
        ((h.newly state after).map (·, 0))
      rw [map_fst_new] at hJoin
      exact (hMoved.append_right _).trans ((hJoin.symm.cons message).trans unsettled_perm_dead.symm)
  | expire _ ih =>
      obtain ⟨waiting, hRuns, hPerm⟩ := ih
      exact ⟨waiting, hRuns, hPerm.trans (unsettled_perm_cons.trans unsettled_perm_dead.symm)⟩
  | @acknowledge state after before rest message used dead _ hAcknowledged ih =>
      obtain ⟨waiting, hRuns, hPerm⟩ := ih
      have hMoved := hPerm.trans unsettled_perm_cons
      obtain ⟨earlier, later, rfl⟩ := List.append_of_mem (hMoved.mem_iff.mpr List.mem_cons_self)
      refine ⟨_, hRuns.acknowledge hAcknowledged, ?_⟩
      have hJoin := unsettled_perm_append (before ++ rest) dead
        ((h.newly state after).map (·, 0))
      rw [map_fst_new] at hJoin
      have hOthers : (earlier ++ later).Perm (unsettled (before ++ rest) dead) :=
        (List.perm_middle.symm.trans hMoved).cons_inv
      exact (hOthers.append_right _).trans hJoin.symm
  | @redrive state pending message before rest _ ih =>
      obtain ⟨waiting, hRuns, hPerm⟩ := ih
      refine ⟨waiting, hRuns, hPerm.trans ?_⟩
      simp only [unsettled, List.map_append, List.map_cons, List.map_nil, List.append_assoc,
        List.cons_append, List.nil_append]
      exact List.perm_middle.append_left _
  | other _ hOther ih =>
      obtain ⟨waiting, hRuns, hPerm⟩ := ih
      exact ⟨waiting, hRuns.other hOther, hPerm⟩

variable {Invariant : State → Prop} {Handled : State → Message → Prop}

/-- No message is lost: each one is pending or a dead letter, or it has been handled. -/
theorem Reliable.handled_or_unsettled (hReliable : h.Reliable first Invariant Handled)
    (hRun : h.LimitedRuns first maximum state pending dead) :
    Invariant state ∧ (∀ message ∈ unsettled pending dead, message ∈ first :: h.sent state) ∧
      ∀ message ∈ first :: h.sent state, message ∈ unsettled pending dead ∨ Handled state message := by
  obtain ⟨waiting, hRuns, hPerm⟩ := hRun.runs
  obtain ⟨hInvariant, hSent, hAll⟩ := hReliable.accounted hRuns
  refine ⟨hInvariant, fun message hm => hSent message (hPerm.mem_iff.mpr hm), fun message hm => ?_⟩
  exact (hAll message hm).imp_left hPerm.mem_iff.mp

/-- What is not done is the concern of a message that is pending or a dead letter. -/
theorem Restoring.done_or_unsettled {Item : Type} {Concerns : Message → Item → Prop}
    {Done : State → Item → Prop} (hRestoring : h.Restoring first Invariant Concerns Done)
    (hReliable : h.Reliable first Invariant Handled)
    (hRun : h.LimitedRuns first maximum state pending dead) :
    ∀ message ∈ first :: h.sent state, ∀ item, Concerns message item →
      Done state item ∨ ∃ other ∈ unsettled pending dead, Concerns other item := by
  obtain ⟨waiting, hRuns, hPerm⟩ := hRun.runs
  intro message hm item hConcerns
  rcases hRestoring.accounted hReliable hRuns message hm item hConcerns with hDone | ⟨other, hOther, hItem⟩
  · exact Or.inl hDone
  · exact Or.inr ⟨other, hPerm.mem_iff.mp hOther, hItem⟩

end Execution.Handling
