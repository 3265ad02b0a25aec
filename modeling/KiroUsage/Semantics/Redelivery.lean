import Mathlib.Algebra.BigOperators.Group.List.Lemmas
import Mathlib.Algebra.Order.BigOperators.Group.List
import Mathlib.Algebra.Order.Ring.Nat
import Mathlib.Data.List.Perm.Subperm

/-! Messages that are attempted until an attempt succeeds, up to a maximum number
of times. Every attempt, also a failing one, may send further messages. What is
counted are the names of messages. -/
namespace Execution

/-- How messages are attempted. An attempt fails or succeeds. -/
structure Redelivery (State Message Name : Type) where
  initial : State → Prop
  sent : State → List Message
  attempt : State → Message → Bool → State → Prop
  name : Message → Name
  maximum : Nat

namespace Redelivery

variable {State Message Name : Type} (r : Redelivery State Message Name) (first : Message)

/-- The messages sent between two states. -/
def newly (state after : State) : List Message := (r.sent after).drop (r.sent state).length

/-- What is left of a message after a failed or successful attempt. -/
def remainder (message : Message) (used : Nat) (failed : Bool) : List (Message × Nat) :=
  if failed = true ∧ used + 1 < r.maximum then [(message, used + 1)] else []

/-- The states, the pending messages with the attempts they have used, and the
attempts so far, of all runs that begin with one message. -/
inductive Runs : State → List (Message × Nat) → List Message → Prop
  | start {state : State} (hInitial : r.initial state) : Runs state [(first, 0)] []
  | attempt {state after : State} {before rest : List (Message × Nat)} {message : Message}
      {used : Nat} {failed : Bool} {attempts : List Message}
      (hRun : Runs state (before ++ (message, used) :: rest) attempts)
      (hAttempt : r.attempt state message failed after) :
      Runs after (before ++ rest ++ r.remainder message used failed ++
        (r.newly state after).map fun new => (new, 0)) (attempts ++ [message])

/-- Whether an attempt fails, and which names it sends, depends on the name of
the message alone. -/
structure Steady (Invariant : State → Prop) (Known : Message → Prop) (fails : Name → Bool)
    (next : Name → List Name) : Prop where
  positive : 0 < r.maximum
  first : Known first
  initial : ∀ state, r.initial state → Invariant state
  attempt : ∀ state message failed after, Invariant state → Known message →
    r.attempt state message failed after → Invariant after ∧ failed = fails (r.name message) ∧
      (r.newly state after).map r.name = next (r.name message) ∧
      ∀ new ∈ r.newly state after, Known new

/-- The attempts that a message of this name takes. -/
def own (fails : Name → Bool) (name : Name) : Nat := if fails name then r.maximum else 1

/-- The attempts that a pending message still takes. -/
def remaining (fails : Name → Bool) (entry : Message × Nat) : Nat :=
  if fails (r.name entry.1) then r.maximum - entry.2 else 1

/-- How many of the attempts were for messages of this name. -/
def executions [DecidableEq Name] (attempts : List Message) (name : Name) : Nat :=
  (attempts.map r.name).count name

variable {r first} {Invariant : State → Prop} {Known : Message → Prop} {fails : Name → Bool}
  {next : Name → List Name}

/-- The attempts left, each with a weight that its name has. -/
def load (r : Redelivery State Message Name) (fails : Name → Bool) (weight : Name → Nat)
    (pending : List (Message × Nat)) : Nat :=
  (pending.map fun entry => r.remaining fails entry * weight (r.name entry.1)).sum

theorem load_append (weight : Name → Nat) (pending more : List (Message × Nat)) :
    r.load fails weight (pending ++ more) = r.load fails weight pending + r.load fails weight more := by
  simp [load]

theorem load_new (weight : Name → Nat) (messages : List Message) :
    r.load fails weight (messages.map fun new => (new, 0)) =
      ((messages.map r.name).map fun name => r.own fails name * weight name).sum := by
  simp only [load, List.map_map]
  rfl

variable (fails) in
/-- An attempt takes one from what a message still takes. -/
theorem load_remainder (weight : Name → Nat) (message : Message) {used : Nat} (hUsed : used < r.maximum) :
    weight (r.name message) +
        r.load fails weight (r.remainder message used (fails (r.name message))) =
      r.load fails weight [(message, used)] := by
  cases hFails : fails (r.name message) with
  | false => simp [remainder, load, remaining, hFails]
  | true =>
      by_cases hMore : used + 1 < r.maximum
      · have hSplit : r.maximum - used = (r.maximum - (used + 1)) + 1 := by omega
        simp [remainder, load, remaining, hFails, hMore, hSplit, Nat.add_mul, Nat.add_comm]
      · have hLast : r.maximum - used = 1 := by omega
        simp [remainder, load, remaining, hFails, hMore, hLast]

/-- What holds in every run of a steady redelivery. The attempts made and those
left balance with the messages that were ever sent, whatever the weights. -/
theorem Steady.balance (hSteady : r.Steady first Invariant Known fails next) {state : State}
    {pending : List (Message × Nat)} {attempts : List Message}
    (hRuns : r.Runs first state pending attempts) :
    Invariant state ∧ (∀ entry ∈ pending, Known entry.1 ∧ entry.2 < r.maximum) ∧
      (∀ message ∈ attempts, Known message) ∧ ∀ weight : Name → Nat,
        ((attempts.map r.name).map weight).sum + r.load fails weight pending =
          ((r.name first :: (attempts.map r.name).flatMap next).map
            fun name => r.own fails name * weight name).sum := by
  induction hRuns with
  | @start state hInitial =>
      refine ⟨hSteady.initial state hInitial, ?_, nofun, fun weight => ?_⟩
      · intro entry hm
        rw [List.mem_singleton.mp hm]
        exact ⟨hSteady.first, hSteady.positive⟩
      · simp [load, remaining, own]
  | @attempt state after before rest message used failed attempts _ hAttempt ih =>
      obtain ⟨hInvariant, hPending, hAttempts, hBalance⟩ := ih
      obtain ⟨hKnown, hUsed⟩ : Known message ∧ used < r.maximum := hPending (message, used) (by simp)
      obtain ⟨hAfter, rfl, hNext, hNew⟩ := hSteady.attempt _ _ _ _ hInvariant hKnown hAttempt
      refine ⟨hAfter, ?_, ?_, fun weight => ?_⟩
      · intro entry hm
        simp only [List.mem_append] at hm
        rcases hm with ((hm | hm) | hm) | hm
        · exact hPending entry (by simp [hm])
        · exact hPending entry (by simp [hm])
        · unfold remainder at hm
          split_ifs at hm with hMore
          · rw [List.mem_singleton.mp hm]
            exact ⟨hKnown, hMore.2⟩
          · cases hm
        · obtain ⟨new, hSent, rfl⟩ := List.mem_map.mp hm
          exact ⟨hNew new hSent, hSteady.positive⟩
      · intro other hm
        rcases List.mem_append.mp hm with hm | hm
        · exact hAttempts other hm
        · rw [List.mem_singleton.mp hm]
          exact hKnown
      · have hBefore := hBalance weight
        have hSpent := load_remainder fails weight message hUsed
        rw [show before ++ (message, used) :: rest = before ++ ([(message, used)] ++ rest) from rfl]
          at hBefore
        simp only [load_append, List.map_append, List.sum_append, List.flatMap_append, load_new, hNext,
          List.map_cons, List.map_nil, List.sum_cons, List.sum_nil, List.flatMap_cons,
          List.flatMap_nil, List.append_nil] at hBefore ⊢
        omega

section Count

variable [DecidableEq Name] {state : State} {attempts : List Message}

/-- In a finished run a name was attempted as often as messages of that name
take together. -/
theorem Steady.executions_eq (hSteady : r.Steady first Invariant Known fails next)
    (hRuns : r.Runs first state [] attempts) (name : Name) :
    r.executions attempts name =
      (r.name first :: (attempts.map r.name).flatMap next).count name * r.own fails name := by
  let weight : Name → Nat := fun other => if other = name then 1 else 0
  have hCount (names : List Name) : (names.map weight).sum = names.count name := by
    rw [List.sum_map_eq_nsmul_single name _ fun other hOther _ => if_neg hOther]
    simp
  have hTaken (names : List Name) :
      (names.map fun other => r.own fails other * weight other).sum =
        names.count name * r.own fails name := by
    rw [List.sum_map_eq_nsmul_single name _ fun other hOther _ => by simp [weight, hOther]]
    simp [weight]
  have hBalance := (hSteady.balance hRuns).2.2.2 weight
  rw [hCount, hTaken] at hBalance
  exact hBalance

/-- A first name that is never sent again. -/
theorem Steady.executions_first (hSteady : r.Steady first Invariant Known fails next)
    (hRuns : r.Runs first state [] attempts)
    (hNever : ∀ message, Known message → r.name first ∉ next (r.name message)) :
    r.executions attempts (r.name first) = r.own fails (r.name first) := by
  have hNone : r.name first ∉ (attempts.map r.name).flatMap next := by
    intro hm
    obtain ⟨name, hName, hSent⟩ := List.mem_flatMap.mp hm
    obtain ⟨message, hMessage, rfl⟩ := List.mem_map.mp hName
    exact hNever message ((hSteady.balance hRuns).2.2.1 message hMessage) hSent
  rw [hSteady.executions_eq hRuns, List.count_cons_self, List.count_eq_zero_of_not_mem hNone, Nat.zero_add,
    Nat.one_mul]

/-- A name that is sent by attempts of one other name only multiplies the
attempts of that name. -/
theorem Steady.executions_next (hSteady : r.Steady first Invariant Known fails next)
    (hRuns : r.Runs first state [] attempts) {name source : Name} (hFirst : r.name first ≠ name)
    (hSource : next source = [name])
    (hOthers : ∀ message, Known message → r.name message ≠ source → name ∉ next (r.name message)) :
    r.executions attempts name = r.executions attempts source * r.own fails name := by
  have hKnown := (hSteady.balance hRuns).2.2.1
  have hSent : (attempts.map r.name).map (List.count name ∘ next) =
      (attempts.map r.name).map fun other => if other = source then 1 else 0 := by
    refine List.map_congr_left fun other hOther => ?_
    obtain ⟨message, hMessage, rfl⟩ := List.mem_map.mp hOther
    dsimp only [Function.comp_apply]
    split_ifs with hName
    · rw [hName, hSource, List.count_singleton_self]
    · exact List.count_eq_zero_of_not_mem (hOthers message (hKnown message hMessage) hName)
  rw [hSteady.executions_eq hRuns, List.count_cons_of_ne hFirst, List.count_flatMap, hSent,
    List.sum_map_eq_nsmul_single source _ fun other hOther _ => if_neg hOther]
  simp [executions]

/-- A bound on the attempts of each name bounds all attempts. -/
theorem length_le_of_executions_le {known : List Name} {bound : Nat}
    (hKnown : ∀ message ∈ attempts, r.name message ∈ known)
    (hBound : ∀ message ∈ attempts, r.executions attempts (r.name message) ≤ bound) :
    attempts.length ≤ known.length * bound := by
  let names := attempts.map r.name
  have hDistinct : names.dedup.length ≤ known.length := by
    refine (List.Nodup.subperm names.nodup_dedup fun name hm => ?_).length_le
    obtain ⟨message, hMessage, rfl⟩ := List.mem_map.mp (List.mem_dedup.mp hm)
    exact hKnown message hMessage
  calc attempts.length = names.length := (List.length_map _).symm
    _ = (names.dedup.map fun name => names.count name).sum :=
        names.sum_map_count_dedup_eq_length.symm
    _ ≤ (names.dedup.map fun name => names.count name).length • bound := by
        refine List.sum_le_card_nsmul _ bound fun count hm => ?_
        obtain ⟨name, hName, rfl⟩ := List.mem_map.mp hm
        obtain ⟨message, hMessage, rfl⟩ := List.mem_map.mp (List.mem_dedup.mp hName)
        exact hBound message hMessage
    _ ≤ known.length * bound := by
        rw [List.length_map, Nat.nsmul_eq_mul]
        exact Nat.mul_le_mul_right bound hDistinct

end Count

/-- If the names sent go back to no name they come from, every run can be run to
its end: the cost of a message counts all attempts it leads to. -/
theorem Steady.finishes (hSteady : r.Steady first Invariant Known fails next) (cost : Name → Nat)
    (hCost : ∀ message, Known message → cost (r.name message) =
      1 + ((next (r.name message)).map fun name => r.own fails name * cost name).sum)
    (hAttempt : ∀ state message, Invariant state → Known message →
      ∃ failed after, r.attempt state message failed after)
    {state : State} {pending : List (Message × Nat)} {attempts : List Message}
    (hRuns : r.Runs first state pending attempts) :
    ∃ state' more, r.Runs first state' [] (attempts ++ more) := by
  induction hLoad : r.load fails cost pending using Nat.strong_induction_on generalizing state pending
    attempts with
  | _ _ ih =>
      obtain ⟨hInvariant, hPending, _⟩ := hSteady.balance hRuns
      rcases pending with _ | ⟨⟨message, used⟩, rest⟩
      · exact ⟨state, [], by rwa [List.append_nil]⟩
      obtain ⟨hKnown, hUsed⟩ : Known message ∧ used < r.maximum :=
        hPending (message, used) List.mem_cons_self
      obtain ⟨failed, after, hStep⟩ := hAttempt state message hInvariant hKnown
      obtain ⟨_, rfl, hNext, _⟩ := hSteady.attempt _ _ _ _ hInvariant hKnown hStep
      have hSpent := load_remainder fails cost message hUsed
      have hMore := hCost message hKnown
      have hRuns : r.Runs first state ([] ++ (message, used) :: rest) attempts := hRuns
      suffices hFinishes : ∃ state' more, r.Runs first state' [] (attempts ++ [message] ++ more) by
        obtain ⟨state', more, hEnd⟩ := hFinishes
        exact ⟨state', message :: more, by rwa [List.append_assoc] at hEnd⟩
      refine ih _ ?_ (hRuns.attempt hStep) rfl
      rw [show (message, used) :: rest = [(message, used)] ++ rest from rfl] at hLoad
      simp only [List.nil_append, load_append, load_new, hNext] at hLoad ⊢
      omega

/-- Whether an attempt fails is open. It sends names that follow its own, each at most as
often as they follow. -/
structure Descending (r : Redelivery State Message Name) (first : Message)
    (Invariant : State → Prop) (Known : Message → Prop) (next : Name → List Name) : Prop where
  positive : 0 < r.maximum
  first : Known first
  initial : ∀ state, r.initial state → Invariant state
  attempt : ∀ state message failed after, Invariant state → Known message →
    r.attempt state message failed after → Invariant after ∧
      ((r.newly state after).map r.name).Sublist (next (r.name message)) ∧
      ∀ new ∈ r.newly state after, Known new

section Bound

variable {cost : Name → Nat} {state : State} {pending : List (Message × Nat)} {attempts : List Message}

/-- The cost of all attempts that pending messages may still take. -/
def debt (r : Redelivery State Message Name) (cost : Name → Nat) (pending : List (Message × Nat)) : Nat :=
  (pending.map fun entry => (r.maximum - entry.2) * cost (r.name entry.1)).sum

theorem debt_append (more : List (Message × Nat)) :
    r.debt cost (pending ++ more) = r.debt cost pending + r.debt cost more := by
  simp [debt]

theorem debt_new (messages : List Message) :
    r.debt cost (messages.map fun new => (new, 0)) =
      ((messages.map r.name).map fun name => r.maximum * cost name).sum := by
  simp [debt, Function.comp_def]

theorem debt_remainder_le {message : Message} {used : Nat} (failed : Bool) :
    r.debt cost (r.remainder message used failed) ≤ (r.maximum - (used + 1)) * cost (r.name message) := by
  unfold remainder
  split_ifs
  · simp [debt]
  · exact Nat.zero_le _

/-- The attempts made and those that are still owed never exceed what the first message
costs, if a cost covers the attempts that its own sends. -/
theorem Descending.attempts_le (hDescending : r.Descending first Invariant Known next)
    (hCost : ∀ message, Known message →
      1 + ((next (r.name message)).map fun name => r.maximum * cost name).sum ≤ cost (r.name message))
    (hRuns : r.Runs first state pending attempts) :
    Invariant state ∧ (∀ entry ∈ pending, Known entry.1 ∧ entry.2 < r.maximum) ∧
      attempts.length + r.debt cost pending ≤ r.maximum * cost (r.name first) := by
  induction hRuns with
  | @start state hInitial =>
      refine ⟨hDescending.initial state hInitial, fun entry hm => ?_, ?_⟩
      · rw [List.mem_singleton.mp hm]
        exact ⟨hDescending.first, hDescending.positive⟩
      · simp [debt]
  | @attempt state after before rest message used failed attempts _ hAttempt ih =>
      obtain ⟨hInvariant, hPending, hBound⟩ := ih
      obtain ⟨hKnown, hUsed⟩ : Known message ∧ used < r.maximum := hPending (message, used) (by simp)
      obtain ⟨hAfter, hNext, hNew⟩ := hDescending.attempt _ _ _ _ hInvariant hKnown hAttempt
      refine ⟨hAfter, fun entry hm => ?_, ?_⟩
      · simp only [List.mem_append] at hm
        rcases hm with ((hm | hm) | hm) | hm
        · exact hPending entry (by simp [hm])
        · exact hPending entry (by simp [hm])
        · unfold remainder at hm
          split_ifs at hm with hMore
          · rw [List.mem_singleton.mp hm]
            exact ⟨hKnown, hMore.2⟩
          · cases hm
        · obtain ⟨new, hSent, rfl⟩ := List.mem_map.mp hm
          exact ⟨hNew new hSent, hDescending.positive⟩
      · have hSent : r.debt cost ((r.newly state after).map fun new => (new, 0)) ≤
            ((next (r.name message)).map fun name => r.maximum * cost name).sum := by
          rw [debt_new]
          exact (hNext.map _).sum_le_sum fun _ _ => Nat.zero_le _
        have hLeft : r.debt cost (r.remainder message used failed) ≤
            (r.maximum - (used + 1)) * cost (r.name message) := debt_remainder_le failed
        have hPaid := hCost message hKnown
        have hSplit : (r.maximum - used) * cost (r.name message) =
            (r.maximum - (used + 1)) * cost (r.name message) + cost (r.name message) := by
          rw [show r.maximum - used = r.maximum - (used + 1) + 1 by omega, Nat.succ_mul]
        have hOwed : r.debt cost [(message, used)] = (r.maximum - used) * cost (r.name message) := by
          simp [debt]
        rw [show before ++ (message, used) :: rest = before ++ ([(message, used)] ++ rest) from rfl]
          at hBound
        simp only [debt_append, List.length_append, List.length_singleton] at hBound ⊢
        omega

/-- So every run comes to its end, whichever attempts are made. -/
theorem Descending.finishes (hDescending : r.Descending first Invariant Known next)
    (hCost : ∀ message, Known message →
      1 + ((next (r.name message)).map fun name => r.maximum * cost name).sum ≤ cost (r.name message))
    (hAttempt : ∀ state message, Invariant state → Known message →
      ∃ failed after, r.attempt state message failed after)
    (hRuns : r.Runs first state pending attempts) :
    ∃ state' more, r.Runs first state' [] (attempts ++ more) := by
  induction hLeft : r.maximum * cost (r.name first) - attempts.length using Nat.strong_induction_on
    generalizing state pending attempts with
  | _ _ ih =>
      rcases pending with _ | ⟨⟨message, used⟩, rest⟩
      · exact ⟨state, [], by rwa [List.append_nil]⟩
      obtain ⟨hInvariant, hPending, _⟩ := hDescending.attempts_le hCost hRuns
      have hKnown : Known message := (hPending (message, used) List.mem_cons_self).1
      obtain ⟨failed, after, hStep⟩ := hAttempt state message hInvariant hKnown
      have hRuns : r.Runs first state ([] ++ (message, used) :: rest) attempts := hRuns
      have hNext := hRuns.attempt hStep
      have hBound := (hDescending.attempts_le hCost hNext).2.2
      rw [List.length_append, List.length_singleton] at hBound
      obtain ⟨state', more, hEnd⟩ := ih _ (by rw [List.length_append, List.length_singleton]; omega)
        hNext rfl
      exact ⟨state', message :: more, by rwa [List.append_assoc] at hEnd⟩

end Bound

end Redelivery

end Execution
