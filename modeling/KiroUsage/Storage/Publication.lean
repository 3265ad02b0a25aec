import KiroUsage.Storage.Bucket

/-! Replacing a generation. An owner holds some of the keys of a shared bucket
and replaces its objects by first writing the new generation and then removing
what the old one leaves over. This module says what is visible at every point
of that sequence, for any notion of ownership and any contents. -/
namespace Storage

section Contents

variable {Key Body : Type} [DecidableEq Key] (owned : Key → Bool) (new : List (Key × Body))
  (old bucket : Bucket Key Body)

/-- Of the owned objects exactly the new ones are visible, and nothing else
has changed. -/
def Reconciled : Prop :=
  ∀ key, bucket.lookup key = if owned key then written new key else old.lookup key

/-- No owned object is visible, and nothing else has changed. -/
def Withdrawn : Prop :=
  ∀ key, bucket.lookup key = if owned key then none else old.lookup key

/-- Each owned key shows its old object, its new one or none. Nothing else
has changed. -/
def Mixed : Prop :=
  ∀ key,
    (owned key = true → bucket.lookup key = none ∨ bucket.lookup key = old.lookup key ∨
      bucket.lookup key = written new key) ∧
    (owned key = false → bucket.lookup key = old.lookup key)

variable {owned new old bucket}

/-- Removing further owned objects keeps contents mixed. -/
theorem Mixed.remove {after : Bucket Key Body} (h : Mixed owned new old bucket)
    (hRemove : ∀ key, after.lookup key = bucket.lookup key ∨
      (owned key = true ∧ after.lookup key = none)) :
    Mixed owned new old after := by
  intro key
  rcases hRemove key with hSame | ⟨hOwned, hNone⟩
  · rw [hSame]
    exact h key
  · exact ⟨fun _ => Or.inl hNone, fun hOther => by rw [hOwned] at hOther; cases hOther⟩

/-- Removing every owned key that is visible withdraws the owner's objects. -/
theorem Mixed.withdrawn {after : Bucket Key Body} {removed : List Key}
    (h : Mixed owned new old bucket) (hRemovedOwned : ∀ key ∈ removed, owned key = true)
    (hCovers : ∀ key, owned key = true → key ∈ bucket → key ∈ removed)
    (hRemoved : ∀ key, after.lookup key = if key ∈ removed then none else bucket.lookup key) :
    Withdrawn owned old after := by
  intro key
  rw [hRemoved]
  by_cases hOwned : owned key = true
  · rw [if_pos hOwned]
    split_ifs with hMem
    · rfl
    · exact AList.lookup_eq_none.mpr fun hBefore => hMem (hCovers key hOwned hBefore)
  · rw [if_neg hOwned, if_neg fun hMem => hOwned (hRemovedOwned key hMem)]
    exact (h key).2 (by simpa using hOwned)

end Contents

/-- A new generation about to be published over an old bucket. The listing is
exact: `existing` holds the owned keys of the old bucket and nothing else. -/
structure Publication (Key Body : Type) [DecidableEq Key] where
  owned : Key → Bool
  old : Bucket Key Body
  new : List (Key × Body)
  existing : List Key
  new_nodup : (new.map Prod.fst).Nodup
  new_owned : ∀ key ∈ new.map Prod.fst, owned key = true
  existing_iff : ∀ key, key ∈ existing ↔ owned key = true ∧ key ∈ old

namespace Publication

variable {Key Body : Type} [DecidableEq Key] (p : Publication Key Body)

/-- The owned keys that the new generation no longer uses. -/
def stale : List Key := p.existing.filter fun key => key ∉ p.new.map Prod.fst

theorem mem_stale {key : Key} :
    key ∈ p.stale ↔ p.owned key = true ∧ key ∈ p.old ∧ key ∉ p.new.map Prod.fst := by
  simp only [stale, List.mem_filter, decide_eq_true_eq, p.existing_iff, and_assoc]

theorem written_eq_none_of_not_owned {key : Key} (h : p.owned key = false) :
    written p.new key = none := by
  rw [written_eq_none]
  intro hm
  rw [p.new_owned key hm] at h
  cases h

/-- While the new objects are being written, in any order and up to any
point, no third kind of content appears. -/
theorem mixed_writeAll {done rest : List (Key × Body)} (hSplit : done ++ rest = p.new) :
    Mixed p.owned p.new p.old (p.old.writeAll done) := by
  have hNodup : (done.map Prod.fst).Nodup := by
    have h := p.new_nodup
    rw [← hSplit, List.map_append, List.nodup_append] at h
    exact h.1
  intro key
  rw [Bucket.lookup_writeAll _ _ hNodup]
  cases hDone : written done key with
  | none =>
      exact ⟨fun _ => Or.inr (Or.inl rfl), fun _ => rfl⟩
  | some body =>
      have hMem : (key, body) ∈ p.new := hSplit ▸ List.mem_append_left _ (mem_of_written hDone)
      have hOwned := p.new_owned key (List.mem_map.mpr ⟨_, hMem, rfl⟩)
      rw [hOwned, written_of_mem p.new_nodup hMem]
      exact ⟨fun _ => Or.inr (Or.inr rfl), nofun⟩

/-- What a lookup finds after all writes and some of the removals. -/
theorem lookup_removing (done : List Key) (key : Key) :
    ((p.old.writeAll p.new).removeAll done).lookup key =
      if key ∈ done then none else (written p.new key).or (p.old.lookup key) := by
  rw [Bucket.lookup_removeAll, Bucket.lookup_writeAll _ _ p.new_nodup]

theorem mixed_removeAll {done : List Key} (hDone : ∀ key ∈ done, key ∈ p.stale) :
    Mixed p.owned p.new p.old ((p.old.writeAll p.new).removeAll done) := by
  intro key
  rw [lookup_removing]
  constructor
  · intro _
    split_ifs with hMem
    · simp
    · cases written p.new key with
      | none => exact Or.inr (Or.inl rfl)
      | some body => exact Or.inr (Or.inr rfl)
  · intro hOther
    have hMem : key ∉ done := fun hm => by
      simp [(p.mem_stale.mp (hDone key hm)).1] at hOther
    rw [if_neg hMem, p.written_eq_none_of_not_owned hOther]
    rfl

/-- All writes and all removals make exactly the new generation visible. -/
theorem reconciled_publish :
    Reconciled p.owned p.new p.old ((p.old.writeAll p.new).removeAll p.stale) := by
  intro key
  rw [lookup_removing]
  by_cases hOwned : p.owned key = true
  · rw [if_pos hOwned]
    cases hNew : written p.new key with
    | none =>
        split_ifs with hStale
        · rfl
        · have hAbsent : key ∉ p.old := fun hOld =>
            hStale (p.mem_stale.mpr ⟨hOwned, hOld, (written_eq_none _ _).mp hNew⟩)
          rw [Option.none_or]
          exact AList.lookup_eq_none.mpr hAbsent
    | some body =>
        have hMem : key ∈ p.new.map Prod.fst :=
          List.mem_map.mpr ⟨_, mem_of_written hNew, rfl⟩
        rw [if_neg fun hStale => (p.mem_stale.mp hStale).2.2 hMem]
        rfl
  · have hStale : key ∉ p.stale := fun h => hOwned (p.mem_stale.mp h).1
    rw [if_neg hOwned, if_neg hStale, p.written_eq_none_of_not_owned (by simpa using hOwned)]
    rfl

/-- An owned object that is visible after some writes was listed or written. -/
theorem listed_or_written {done : List (Key × Body)} {key : Key} (hOwned : p.owned key = true)
    (hMem : key ∈ p.old.writeAll done) : key ∈ p.existing ∨ key ∈ done.map Prod.fst := by
  by_cases hDone : key ∈ done.map Prod.fst
  · exact Or.inr hDone
  · refine Or.inl ((p.existing_iff key).mpr ⟨hOwned, ?_⟩)
    rw [← AList.lookup_isSome, Bucket.lookup_writeAll_of_not_mem _ _ _ hDone] at hMem
    exact AList.lookup_isSome.mp hMem

end Publication

end Storage
