import KiroUsage.Ingest.Reached

/-! The saved sequencers over whole runs. Whatever the function is invoked with, and
whether its calls succeed, fail or are cut off, what it has saved can be read again
and its number never falls. -/
namespace KiroIngest

open Text Storage Execution

/-- Every state document holds a sequencer. -/
def World.StatesReadable (w : World) : Prop :=
  ∀ source body, w.analytics.lookup (stateKey source) = some body →
    ∃ sequencer, isSequencer sequencer = true ∧ body = .sequencerState (some sequencer)

/-- Every sequencer that was saved at first is still there, or a higher one. -/
def World.SequencersKept (start w : World) : Prop :=
  ∀ source saved, start.analytics.lookup (stateKey source) = some (.sequencerState (some saved)) →
    ∃ later, w.analytics.lookup (stateKey source) = some (.sequencerState (some later)) ∧
      hexValue saved ≤ hexValue later

section Step

variable {start w after : World}

/-- What is found in a state that is readable. -/
theorem World.StatesReadable.cases (h : w.StatesReadable) (source : IngestSource) :
    w.savedSequencer source = .ok none ∨
      ∃ sequencer, isSequencer sequencer = true ∧
        w.analytics.lookup (stateKey source) = some (.sequencerState (some sequencer)) ∧
        w.savedSequencer source = .ok (some sequencer) := by
  unfold World.savedSequencer World.readState
  cases hLookup : w.analytics.lookup (stateKey source) with
  | none => exact Or.inl rfl
  | some body =>
      obtain ⟨sequencer, hValid, rfl⟩ := h source body hLookup
      exact Or.inr ⟨sequencer, hValid, rfl, rfl⟩

/-- The check for stale events against a saved sequencer. -/
theorem staleEvent_against {source : IngestSource} {sequencer saved : Str}
    (hSequencer : source.sequencer = some sequencer) (hValid : isSequencer saved = true)
    (hSaved : w.savedSequencer source = .ok (some saved)) :
    w.staleEvent source = .ok (decide (hexValue sequencer ≤ hexValue saved)) := by
  have hStale := isStale_some (source.sequencer_valid sequencer hSequencer) (hex_of_isSequencer hValid)
  rw [World.staleEvent, hSequencer]
  dsimp only
  rw [hSaved]
  exact hStale

/-- An event is fresh only above what is saved. -/
theorem saved_lt_of_fresh (h : w.StatesReadable) {source : IngestSource} {sequencer saved : Str}
    (hSequencer : source.sequencer = some sequencer) (hFresh : w.staleEvent source = .ok false)
    (hSaved : w.analytics.lookup (stateKey source) = some (.sequencerState (some saved))) :
    hexValue saved < hexValue sequencer := by
  obtain ⟨_, hValid, hBody⟩ := h source _ hSaved
  cases hBody
  have hFound : w.savedSequencer source = .ok (some saved) := by
    rw [World.savedSequencer, World.readState, hSaved]
  rw [staleEvent_against hSequencer hValid hFound] at hFresh
  simpa using hFresh

/-- The check for stale events does not fail. -/
theorem World.StatesReadable.staleEvent (h : w.StatesReadable) (source : IngestSource) :
    ∃ stale, w.staleEvent source = .ok stale := by
  cases hSequencer : source.sequencer with
  | none => exact ⟨false, staleEvent_of_backfill hSequencer w⟩
  | some sequencer =>
      obtain hNone | ⟨saved, hValid, _, hSaved⟩ := h.cases source
      · refine ⟨false, ?_⟩
        rw [World.staleEvent, hSequencer]
        dsimp only
        rw [hNone]
        rfl
      · exact ⟨_, staleEvent_against hSequencer hValid hSaved⟩

/-- A stale event is one that a saved sequencer is not below. -/
theorem World.StatesReadable.saved_of_stale (h : w.StatesReadable) {source : IngestSource}
    (hStale : w.staleEvent source = .ok true) :
    ∃ sequencer saved, source.sequencer = some sequencer ∧
      w.savedSequencer source = .ok (some saved) ∧ hexValue sequencer ≤ hexValue saved := by
  cases hSequencer : source.sequencer with
  | none => cases (staleEvent_of_backfill hSequencer w).symm.trans hStale
  | some sequencer =>
      obtain hNone | ⟨saved, hValid, _, hSaved⟩ := h.cases source
      · rw [World.staleEvent, hSequencer] at hStale
        dsimp only at hStale
        rw [hNone] at hStale
        cases hStale
      · rw [staleEvent_against hSequencer hValid hSaved] at hStale
        exact ⟨sequencer, saved, rfl, hSaved, by simpa using hStale⟩

/-- The step: a run saves at most the sequencer of a fresh event. -/
theorem Effect.sequencers {s : IngestService} {plan : FaultPlan} {source : IngestSource}
    {outcome : Outcome Exn Unit} (h : Effect s plan source w outcome after)
    (hInvariant : w.StatesReadable ∧ start.SequencersKept w) :
    after.StatesReadable ∧ start.SequencersKept after := by
  obtain ⟨hReadable, hKept⟩ := hInvariant
  constructor
  · intro other body hBody
    obtain hSame | ⟨sequencer, hSequencer, _, _, hSaved⟩ := h.state_written other
    · exact hReadable other body (hSame ▸ hBody)
    · exact ⟨sequencer, source.sequencer_valid sequencer hSequencer,
        Option.some.inj (hBody.symm.trans hSaved)⟩
  · intro other saved hStart
    obtain ⟨now, hNow, hLe⟩ := hKept other saved hStart
    obtain hSame | ⟨sequencer, hSequencer, hKey, hFresh, hSaved⟩ := h.state_written other
    · exact ⟨now, hSame.trans hNow, hLe⟩
    · rw [hKey] at hNow
      have hLt := saved_lt_of_fresh hReadable hSequencer hFresh hNow
      exact ⟨sequencer, hSaved, by omega⟩

theorem sequencers_same (h : ∀ source, after.analytics.lookup (stateKey source) =
      w.analytics.lookup (stateKey source))
    (hInvariant : w.StatesReadable ∧ start.SequencersKept w) :
    after.StatesReadable ∧ start.SequencersKept after := by
  obtain ⟨hReadable, hKept⟩ := hInvariant
  constructor
  · intro source body hBody
    exact hReadable source body ((h source).symm.trans hBody)
  · intro source saved hStart
    obtain ⟨later, hLater, hLe⟩ := hKept source saved hStart
    exact ⟨later, (h source).trans hLater, hLe⟩

theorem sequencers_keptByRuns (s : IngestService) (plan : FaultPlan) :
    KeptByRuns s plan fun w => w.StatesReadable ∧ start.SequencersKept w where
  alongside := by
    intro w after hSame
    apply sequencers_same
    intro source
    rw [hSame.analytics]
  run := by
    intro source
    rw [keeps_iff]
    intro calls w
    exact (s.processCsvAsync_effect source plan calls w).2.sequencers

end Step

/-- Over any run from a world whose state documents hold a number each: the check for
stale events never fails on one, a saved number never falls, and what was stale stays
stale. -/
theorem Function.Reaches.sequencers_never_fall {f : Function} {plans : World → FaultPlan → Prop}
    {start w : World} (h : f.Reaches plans start w) (hStart : start.StatesReadable)
    (source : IngestSource) :
    (∃ stale, w.staleEvent source = .ok stale) ∧
      (∀ saved, start.savedSequencer source = .ok (some saved) →
        ∃ later, w.savedSequencer source = .ok (some later) ∧ hexValue saved ≤ hexValue later) ∧
      (start.staleEvent source = .ok true → w.staleEvent source = .ok true) := by
  have hInvariant : w.StatesReadable ∧ start.SequencersKept w := by
    apply h.invariant (fun _ plan _ _ => sequencers_keptByRuns f.ingest plan)
    · intro w after hOwn _
      exact sequencers_same fun source => hOwn _ (isIngestKey_stateKey source)
    · exact ⟨hStart, fun source saved hSaved => ⟨saved, hSaved, le_rfl⟩⟩
  obtain ⟨hReadable, hKept⟩ := hInvariant
  have hRises (saved : Str) (hSaved : start.savedSequencer source = .ok (some saved)) :
      ∃ later, isSequencer later = true ∧ w.savedSequencer source = .ok (some later) ∧
        hexValue saved ≤ hexValue later := by
    obtain hNone | ⟨sequencer, _, hLookup, hFound⟩ := hStart.cases source
    · cases hSaved.symm.trans hNone
    · cases hSaved.symm.trans hFound
      obtain ⟨later, hLater, hLe⟩ := hKept source saved hLookup
      obtain ⟨_, hValid, hBody⟩ := hReadable source _ hLater
      cases hBody
      refine ⟨later, hValid, ?_, hLe⟩
      rw [World.savedSequencer, World.readState, hLater]
  refine ⟨hReadable.staleEvent source, fun saved hSaved => ?_, fun hStale => ?_⟩
  · obtain ⟨later, _, hLater, hLe⟩ := hRises saved hSaved
    exact ⟨later, hLater, hLe⟩
  · obtain ⟨sequencer, saved, hSequencer, hSaved, hLe⟩ := hStart.saved_of_stale hStale
    obtain ⟨later, hValid, hLater, hRise⟩ := hRises saved hSaved
    rw [staleEvent_against hSequencer hValid hLater, decide_eq_true (hLe.trans hRise)]

section Example

/-- The sequencer of the example's event is saved. -/
def exampleSaved : World :=
  { exampleShelf with
    analytics := AList.insert (stateKey exampleLive) (.sequencerState (some ['1'])) ∅ }

theorem exampleSaved_readable : exampleSaved.StatesReadable := by
  intro source body hBody
  by_cases hKey : stateKey source = stateKey exampleLive
  · rw [hKey] at hBody
    exact ⟨['1'], rfl, (Option.some.inj ((AList.lookup_insert _).symm.trans hBody)).symm⟩
  · cases ((AList.lookup_insert_ne hKey).trans (AList.lookup_empty _)).symm.trans hBody

/-- The event stays stale after an invocation in which a call fails. -/
theorem sequencers_never_fall_example :
    (exampleNotified.handleAsync exampleNotification exampleOutage 0
      exampleSaved).state.staleEvent exampleLive = .ok true := by
  have hReached : exampleNotified.Reaches (fun _ plan => plan = exampleOutage) exampleSaved _ :=
    .invoke .start rfl exampleNotification 0
  have hSaved : exampleSaved.savedSequencer exampleLive = .ok (some ['1']) := by
    rw [World.savedSequencer, World.readState, exampleSaved, AList.lookup_insert]
  have hStale : exampleSaved.staleEvent exampleLive =
      .ok (decide (hexValue ['1'] ≤ hexValue ['1'])) := staleEvent_against rfl rfl hSaved
  rw [decide_eq_true le_rfl] at hStale
  exact (hReached.sequencers_never_fall exampleSaved_readable exampleLive).2.2 hStale

end Example

end KiroIngest
