import KiroUsage.Ingest.Coverage
import KiroUsage.Ingest.Atomicity
import KiroUsage.Ingest.SourceHistory
import Mathlib.Data.Finset.Dedup
import Mathlib.Data.Finset.Max

/-! Retries of a batch. An S3 event is delivered again until an attempt at it
succeeds. A failed attempt may leave any mixture of prior and new objects, but
no sequencer without its generation, and nothing that the next attempt does not
find. So the first attempt without a failure ends as if it had been the only one. -/
namespace KiroIngest

open Text Storage Execution ReportTransform

/-- Events of one object. -/
abbrev SameObject (a b : IngestSource) : Prop := a.bucket = b.bucket ∧ a.key = b.key

theorem SameObject.symm {a b : IngestSource} (h : SameObject a b) : SameObject b a :=
  ⟨h.1.symm, h.2.symm⟩

theorem SameObject.stateKey_eq {a b : IngestSource} (h : SameObject a b) :
    stateKey a = stateKey b := by
  rw [stateKey, stateKey, h.1, h.2]

theorem SameObject.owned_eq {a b : IngestSource} (h : SameObject a b) (key : Str) :
    owned a key = owned b key := by
  rw [owned, owned, isOutputOf, isOutputOf, currentFileName, currentFileName, legacyFileName,
    legacyFileName, h.1, h.2]

/-- The place of an event in the order of its object's events. Sequencers are
equal when they denote one number, as `CompareSequencers` has it. -/
def IngestSource.rank (source : IngestSource) : Nat := hexValue (source.sequencer.getD [])

/-- A batch of events whose objects have names of their own and whose reports
are accepted. Two events of one object with equal sequencers are one event. -/
structure Batch (f : Function) (records : List S3Record) (w : World) : Prop where
  sequenced : ∀ a ∈ f.sources records, ∃ sequencer, a.sequencer = some sequencer
  accepted : ∀ a ∈ f.sources records, ∃ result, f.ingest.transformed a w = .ok result
  ids : ∀ a ∈ f.sources records, ∀ b ∈ f.sources records, ¬SameObject a b →
    sourceId a.bucket a.key ≠ sourceId b.bucket b.key
  names : ∀ a ∈ f.sources records, ∀ b ∈ f.sources records, ¬SameObject a b →
    currentFileName a ≠ currentFileName b ∧ legacyFileName a ≠ currentFileName b
  duplicates : ∀ a ∈ f.sources records, ∀ b ∈ f.sources records, SameObject a b →
    a.rank = b.rank → a = b

/-- The states after any number of attempts at a batch. Each runs under any plan
and any paging of the listings. -/
inductive Attempts (f : Function) (records : List S3Record) (start : World) : World → Prop
  | none : Attempts f records start start
  | more {w : World} (h : Attempts f records start w) (plan : FaultPlan) (paging : Paging) :
      Attempts f records start (f.handleS3EventAsync (some records) plan 0 { w with paging }).state

/-- The event's own sequencer is saved. -/
def World.HasSaved (w : World) (source : IngestSource) : Prop :=
  w.analytics.lookup (stateKey source) = some (.sequencerState source.sequencer)

section Staleness

variable {f : Function} {records : List S3Record} {start w : World} {a b : IngestSource}

theorem savedSequencer_eq (h : SameObject a b) : w.savedSequencer a = w.savedSequencer b := by
  rw [World.savedSequencer, World.savedSequencer, h.stateKey_eq]

/-- An event of an object whose event `b` is saved is stale up to `b`. -/
theorem staleEvent_of_hasSaved (hBatch : Batch f records start) (ha : a ∈ f.sources records)
    (hb : b ∈ f.sources records) (hSame : SameObject a b) (hSaved : w.HasSaved b) :
    w.staleEvent a = .ok (decide (a.rank ≤ b.rank)) := by
  obtain ⟨sa, hsa⟩ := hBatch.sequenced a ha
  obtain ⟨sb, hsb⟩ := hBatch.sequenced b hb
  have hFound : w.savedSequencer a = .ok (some sb) := by
    rw [savedSequencer_eq hSame, ← hsb]
    exact savedSequencer_of_lookup hSaved
  unfold World.staleEvent
  simp only [hsa, hFound, Fallible.ok_bind, IngestSource.rank, hsb, Option.getD_some]
  exact isStale_some (a.sequencer_valid sa hsa) (hex_of_isSequencer (b.sequencer_valid sb hsb))

/-- Above a fresh event of an object every event is fresh. -/
theorem staleEvent_mono (hBatch : Batch f records start) (ha : a ∈ f.sources records)
    (hb : b ∈ f.sources records) (hSame : SameObject a b) (hRank : a.rank ≤ b.rank)
    (h : w.staleEvent a = .ok false) : w.staleEvent b = .ok false := by
  obtain ⟨sa, hsa⟩ := hBatch.sequenced a ha
  obtain ⟨sb, hsb⟩ := hBatch.sequenced b hb
  simp only [IngestSource.rank, hsa, hsb, Option.getD_some] at hRank
  unfold World.staleEvent at h ⊢
  rw [hsa] at h
  rw [hsb]
  obtain ⟨saved, hFound, hFresh⟩ := Fallible.bind_eq_ok.mp h
  refine Fallible.bind_eq_ok.mpr ⟨saved, (savedSequencer_eq hSame).symm.trans hFound, ?_⟩
  exact isStale_mono (a.sequencer_valid sa hsa) (b.sequencer_valid sb hsb) hRank hFresh

end Staleness

/-- The event that decides on its object: the newest one of the batch, if
neither it nor a newer one has been saved before. -/
structure Wins (f : Function) (records : List S3Record) (start : World) (source : IngestSource) :
    Prop where
  mem : source ∈ f.sources records
  fresh : start.staleEvent source = .ok false
  newest : ∀ other ∈ f.sources records, SameObject other source → other.rank ≤ source.rank

theorem exists_wins {f : Function} {records : List S3Record} {start : World} {a : IngestSource}
    (hBatch : Batch f records start) (ha : a ∈ f.sources records)
    (hFresh : start.staleEvent a = .ok false) : ∃ b, Wins f records start b ∧ SameObject a b := by
  obtain ⟨b, hb, hMax⟩ := ((f.sources records).toFinset.filter (SameObject a ·)).exists_max_image
    IngestSource.rank ⟨a, Finset.mem_filter.mpr ⟨List.mem_toFinset.mpr ha, rfl, rfl⟩⟩
  simp only [Finset.mem_filter, List.mem_toFinset] at hb hMax
  obtain ⟨hb, hSame⟩ := hb
  have hRank := hMax a ⟨ha, rfl, rfl⟩
  refine ⟨b, ⟨hb, staleEvent_mono hBatch ha hb hSame hRank hFresh, fun other hOther hSameB => ?_⟩,
    hSame⟩
  exact hMax other ⟨hOther, hSame.1.trans hSameB.1.symm, hSame.2.trans hSameB.2.symm⟩

section Effects

variable {s : IngestService} {plan : FaultPlan} {source : IngestSource} {before after : World}
  {outcome : Outcome Exn Unit}

/-- Only a fresh event changes the analytics bucket. -/
theorem Effect.analytics_of_not_fresh (h : Effect s plan source before outcome after)
    (hNot : before.staleEvent source ≠ .ok false) : after.analytics = before.analytics := by
  cases h with
  | skipped _ _ hAnalytics _ => exact hAnalytics
  | interrupted _ _ hAnalytics _ => exact hAnalytics
  | torn _ _ hFresh _ _ _ _ _ => exact absurd hFresh hNot
  | unsaved _ _ _ hFresh _ _ _ _ _ => exact absurd hFresh hNot
  | published _ _ _ hFresh _ _ _ _ => exact absurd hFresh hNot

/-- The objects of the source are the outputs of its event. -/
def World.ShowsEvent (w : World) (s : IngestService) (start : World) (source : IngestSource) : Prop :=
  ∃ result, s.transformed source start = .ok result ∧ ∀ key, owned source key = true →
    w.analytics.lookup key = written (prepareOutputs source result) key

/-- A run saves its sequencer over a complete generation only. -/
theorem Effect.state_cases (h : Effect s plan source before outcome after) :
    after.analytics.lookup (stateKey source) = before.analytics.lookup (stateKey source) ∨
      (after.HasSaved source ∧ after.ShowsEvent s before source) := by
  have hSaves {result : TransformResult} {complete : Bucket Str ObjectBody}
      (hResult : s.transformed source before = .ok result)
      (hReconciled : Reconciled (owned source) (prepareOutputs source result) before.analytics complete)
      (hAnalytics : after.analytics = withSequencer source complete) :
      after.analytics.lookup (stateKey source) = before.analytics.lookup (stateKey source) ∨
        (after.HasSaved source ∧ after.ShowsEvent s before source) := by
    have hState : complete.lookup (stateKey source) = before.analytics.lookup (stateKey source) := by
      rw [hReconciled, owned_stateKey]
      rfl
    cases hSequencer : source.sequencer with
    | none =>
        rw [hAnalytics, withSequencer, hSequencer]
        exact Or.inl hState
    | some sequencer =>
        refine Or.inr ⟨?_, result, hResult, fun key hOwned => ?_⟩
        · rw [World.HasSaved, hAnalytics, hSequencer]
          exact lookup_withSequencer_stateKey hSequencer complete
        · have hKey := ne_stateKey_of_isFactKey (isFactKey_of_owned hOwned) source
          rw [hAnalytics, lookup_withSequencer hKey, hReconciled, if_pos hOwned]
  cases h with
  | skipped _ _ hAnalytics _ => exact Or.inl (by rw [hAnalytics])
  | interrupted _ _ hAnalytics _ => exact Or.inl (by rw [hAnalytics])
  | torn _ _ _ _ _ hMixed _ _ => exact Or.inl ((hMixed _).2 (owned_stateKey source source))
  | unsaved result complete _ _ hResult _ hReconciled hAnalytics _ =>
      rcases hAnalytics with hAnalytics | hAnalytics
      · rw [hAnalytics, hReconciled, owned_stateKey]
        exact Or.inl rfl
      · exact hSaves hResult hReconciled hAnalytics
  | published result complete _ _ hResult hReconciled hAnalytics _ =>
      exact hSaves hResult hReconciled hAnalytics

/-- Where no call is disturbed, a fresh event of an accepted report is saved. -/
theorem Effect.hasSaved_of_healthy (h : Effect s Plan.healthy source before outcome after)
    (hFresh : before.staleEvent source = .ok false) {result : TransformResult}
    (hResult : s.transformed source before = .ok result) {sequencer : Str}
    (hSequencer : source.sequencer = some sequencer) : after.HasSaved source := by
  cases h with
  | skipped _ hStale _ _ => cases hFresh.symm.trans hStale
  | interrupted _ hCause _ _ _ =>
      obtain ⟨request, _, hDisturbs⟩ | ⟨_, hError⟩ | ⟨_, _, hError⟩ := hCause
      · exact absurd hDisturbs (not_disturbs_healthy request)
      · cases hFresh.symm.trans hError
      · cases hResult.symm.trans hError
  | torn _ _ _ _ hDisturbed _ _ _ =>
      obtain ⟨key, _, hDisturbs | hDisturbs⟩ := hDisturbed
      · exact absurd hDisturbs (not_disturbs_healthy _)
      · exact absurd hDisturbs (not_disturbs_healthy _)
  | unsaved _ _ _ _ _ hDisturbs _ _ _ => exact absurd hDisturbs (not_disturbs_healthy _)
  | published _ complete _ _ _ _ hAnalytics _ =>
      rw [World.HasSaved, hAnalytics, hSequencer]
      exact lookup_withSequencer_stateKey hSequencer complete

end Effects

section Invariant

variable {f : Function} {records : List S3Record} {start w after : World}

/-- The state documents of two objects have different keys. -/
theorem Batch.stateKey_ne (hBatch : Batch f records start) {a b : IngestSource}
    (ha : a ∈ f.sources records) (hb : b ∈ f.sources records) (hOther : ¬SameObject a b) :
    stateKey a ≠ stateKey b := by
  intro hKey
  have hTail := List.append_cancel_left (List.append_cancel_right hKey)
  exact hBatch.ids a ha b hb hOther (List.cons.inj hTail).2

theorem Batch.namesApart (hBatch : Batch f records start) {a b : IngestSource}
    (ha : a ∈ f.sources records) (hb : b ∈ f.sources records) (hOther : ¬SameObject a b) :
    NamesApart a b := by
  obtain ⟨hCurrent, hLegacy⟩ := hBatch.names a ha b hb hOther
  exact ⟨hCurrent, hLegacy, (hBatch.names b hb a ha fun h => hOther h.symm).2⟩

/-- A run for one object leaves the shown outputs of another as they are. -/
theorem Batch.showsEvent_other (hBatch : Batch f records start) {a b : IngestSource}
    (ha : a ∈ f.sources records) (hb : b ∈ f.sources records) (hOther : ¬SameObject a b)
    {plan : FaultPlan} {outcome : Outcome Exn Unit} (hEffect : Effect f.ingest plan a w outcome after)
    (h : w.ShowsEvent f.ingest start b) : after.ShowsEvent f.ingest start b := by
  obtain ⟨result, hResult, hShown⟩ := h
  exact ⟨result, hResult, (hBatch.namesApart ha hb hOther).outputs_kept hEffect hShown⟩

/-- What holds after any attempts. Objects without a deciding event are as they
were. The sequencer of the others is the prior one or one of the batch, and that
of the deciding event stands for its complete outputs. -/
structure Retried (f : Function) (records : List S3Record) (start w : World) : Prop where
  raw : w.raw = start.raw
  target : w.targetListParameter = start.targetListParameter
  untouched : ∀ key, (∀ a, Wins f records start a → owned a key = false ∧ key ≠ stateKey a) →
    w.analytics.lookup key = start.analytics.lookup key
  state : ∀ a, Wins f records start a →
    w.analytics.lookup (stateKey a) = start.analytics.lookup (stateKey a) ∨
      ∃ b ∈ f.sources records, SameObject a b ∧ w.HasSaved b
  shown : ∀ a, Wins f records start a → w.HasSaved a → w.ShowsEvent f.ingest start a

theorem Retried.transformed_eq (h : Retried f records start w) (a : IngestSource) :
    f.ingest.transformed a w = f.ingest.transformed a start :=
  transformed_congr h.raw h.target f.ingest a

theorem Retried.of_same (h : Retried f records start w) (hRaw : after.raw = w.raw)
    (hTarget : after.targetListParameter = w.targetListParameter)
    (hAnalytics : after.analytics = w.analytics) : Retried f records start after := by
  refine ⟨hRaw.trans h.raw, hTarget.trans h.target, fun key hKey => ?_, fun a ha => ?_,
    fun a ha hSaved => ?_⟩
  · rw [hAnalytics, h.untouched key hKey]
  · simp only [World.HasSaved, hAnalytics]
    exact h.state a ha
  · rw [World.HasSaved, hAnalytics] at hSaved
    obtain ⟨result, hResult, hShown⟩ := h.shown a ha hSaved
    exact ⟨result, hResult, fun key hOwned => by rw [hAnalytics, hShown key hOwned]⟩

theorem retried_start (hBatch : Batch f records start) : Retried f records start start := by
  refine ⟨rfl, rfl, fun _ _ => rfl, fun _ _ => Or.inl rfl, fun a ha hSaved => ?_⟩
  have hStale := staleEvent_of_hasSaved hBatch ha.mem ha.mem ⟨rfl, rfl⟩ hSaved
  rw [ha.fresh] at hStale
  simp at hStale

/-- While an event of the object is fresh, the deciding one is not saved. -/
theorem Wins.not_hasSaved (hBatch : Batch f records start) {a b : IngestSource}
    (hb : Wins f records start b) (ha : a ∈ f.sources records) (hSame : SameObject a b)
    (hFresh : w.staleEvent a = .ok false) : ¬w.HasSaved b := by
  intro hSaved
  have hStale := staleEvent_of_hasSaved hBatch ha hb.mem hSame hSaved
  rw [hFresh] at hStale
  simp [hb.newest a ha hSame] at hStale

/-- An event that is fresh after some attempts has a deciding one. -/
theorem Retried.exists_wins (h : Retried f records start w) (hBatch : Batch f records start)
    {a : IngestSource} (ha : a ∈ f.sources records) (hFresh : w.staleEvent a = .ok false) :
    ∃ b, Wins f records start b ∧ SameObject a b := by
  by_contra hNone
  have hState : w.analytics.lookup (stateKey a) = start.analytics.lookup (stateKey a) := by
    refine h.untouched _ fun b hb => ⟨owned_stateKey b a, ?_⟩
    exact hBatch.stateKey_ne ha hb.mem fun hSame => hNone ⟨b, hb, hSame⟩
  rw [staleEvent_congr hState] at hFresh
  exact hNone (KiroIngest.exists_wins hBatch ha hFresh)

/-- A run leaves the state document of an object as it is, or it is a run for an
event of the object and saves that one over its complete outputs. -/
theorem Batch.state_effect (hBatch : Batch f records start) {a b : IngestSource}
    (ha : a ∈ f.sources records) (hb : b ∈ f.sources records) {plan : FaultPlan}
    {outcome : Outcome Exn Unit} (hEffect : Effect f.ingest plan a w outcome after) :
    after.analytics.lookup (stateKey b) = w.analytics.lookup (stateKey b) ∨
      (SameObject a b ∧ after.HasSaved a ∧ after.ShowsEvent f.ingest w a) := by
  by_cases hSame : SameObject a b
  · rw [← hSame.stateKey_eq]
    exact hEffect.state_cases.imp_right fun hSaved => ⟨hSame, hSaved⟩
  · refine Or.inl (hEffect.lookup_other (owned_stateKey a b) ?_)
    exact hBatch.stateKey_ne hb ha fun h => hSame h.symm

/-- Two saved events of one object are one event. -/
theorem Batch.eq_of_hasSaved (hBatch : Batch f records start) {a b : IngestSource}
    (ha : a ∈ f.sources records) (hb : b ∈ f.sources records) (hSame : SameObject a b)
    (hSavedA : w.HasSaved a) (hSavedB : w.HasSaved b) : a = b := by
  rw [World.HasSaved, hSame.stateKey_eq] at hSavedA
  have hSequencer : a.sequencer = b.sequencer := by
    simpa using hSavedA.symm.trans hSavedB
  refine hBatch.duplicates a ha b hb hSame ?_
  rw [IngestSource.rank, IngestSource.rank, hSequencer]

/-- One run keeps what holds after any attempts, and the deciding events that
have been saved. -/
theorem Retried.effect (h : Retried f records start w) (hBatch : Batch f records start)
    {a : IngestSource} (ha : a ∈ f.sources records) (hFrame : Frame w after) {plan : FaultPlan}
    {outcome : Outcome Exn Unit} (hEffect : Effect f.ingest plan a w outcome after) :
    Retried f records start after ∧
      ∀ b, Wins f records start b → w.HasSaved b → after.HasSaved b := by
  by_cases hFresh : w.staleEvent a = .ok false
  · obtain ⟨winner, hWinner, hSameWinner⟩ := h.exists_wins hBatch ha hFresh
    refine ⟨⟨hFrame.raw.trans h.raw, hFrame.targetListParameter.trans h.target, ?_, ?_, ?_⟩, ?_⟩
    · intro key hKey
      obtain ⟨hOwned, hState⟩ := hKey winner hWinner
      rw [← h.untouched key hKey]
      exact hEffect.lookup_other ((hSameWinner.owned_eq key).trans hOwned)
        (hSameWinner.stateKey_eq ▸ hState)
    · intro b hb
      rcases hBatch.state_effect ha hb.mem hEffect with hState | ⟨hSame, hSaved, _⟩
      · refine (h.state b hb).imp hState.trans ?_
        rintro ⟨other, hOther, hSame, hSaved⟩
        refine ⟨other, hOther, hSame, ?_⟩
        rw [World.HasSaved, ← hSame.stateKey_eq] at *
        exact hState.trans hSaved
      · exact Or.inr ⟨a, ha, hSame.symm, hSaved⟩
    · intro b hb hSavedB
      rcases hBatch.state_effect ha hb.mem hEffect with hState | ⟨hSame, hSaved, hShows⟩
      · have hSavedBefore : w.HasSaved b := hState.symm.trans hSavedB
        have hOther : ¬SameObject a b := fun hSame =>
          hb.not_hasSaved hBatch ha hSame hFresh hSavedBefore
        exact hBatch.showsEvent_other ha hb.mem hOther hEffect (h.shown b hb hSavedBefore)
      · obtain ⟨result, hResult, hShown⟩ := hShows
        rw [← hBatch.eq_of_hasSaved ha hb.mem hSame hSaved hSavedB]
        exact ⟨result, (h.transformed_eq a).symm.trans hResult, hShown⟩
    · intro b hb hSavedB
      rcases hBatch.state_effect ha hb.mem hEffect with hState | ⟨hSame, _, _⟩
      · exact hState.trans hSavedB
      · exact absurd hSavedB (hb.not_hasSaved hBatch ha hSame hFresh)
  · have hAnalytics := hEffect.analytics_of_not_fresh hFresh
    refine ⟨h.of_same hFrame.raw hFrame.targetListParameter hAnalytics, fun b _ hSaved => ?_⟩
    rwa [World.HasSaved, hAnalytics]

/-- Where no call is disturbed, the deciding event is saved. -/
theorem Retried.saves (h : Retried f records start w) (hBatch : Batch f records start)
    {a : IngestSource} (ha : Wins f records start a) {outcome : Outcome Exn Unit}
    (hEffect : Effect f.ingest Plan.healthy a w outcome after) : after.HasSaved a := by
  obtain ⟨sequencer, hSequencer⟩ := hBatch.sequenced a ha.mem
  obtain ⟨result, hResult⟩ := hBatch.accepted a ha.mem
  rw [← h.transformed_eq a] at hResult
  by_cases hFresh : w.staleEvent a = .ok false
  · exact hEffect.hasSaved_of_healthy hFresh hResult hSequencer
  · have hAnalytics := hEffect.analytics_of_not_fresh hFresh
    rcases h.state a ha with hState | ⟨b, hb, hSame, hSaved⟩
    · rw [staleEvent_congr hState] at hFresh
      exact absurd ha.fresh hFresh
    · -- Only an event that is not older can make the deciding one stale.
      rw [staleEvent_of_hasSaved hBatch ha.mem hb hSame hSaved] at hFresh
      have hRank : a.rank ≤ b.rank := by simpa using hFresh
      have hEq := hBatch.duplicates b hb a ha.mem hSame.symm
        (le_antisymm (ha.newest b hb hSame.symm) hRank)
      rw [World.HasSaved, hAnalytics, ← hEq]
      exact hSaved

/-- Once the deciding events are saved, nothing is left open. -/
theorem Retried.lookup_eq {w' : World} (h : Retried f records start w)
    (h' : Retried f records start w') (hSaved : ∀ a, Wins f records start a → w.HasSaved a)
    (hSaved' : ∀ a, Wins f records start a → w'.HasSaved a) (key : Str) :
    w.analytics.lookup key = w'.analytics.lookup key := by
  by_cases hKey : ∀ a, Wins f records start a → owned a key = false ∧ key ≠ stateKey a
  · rw [h.untouched key hKey, h'.untouched key hKey]
  · simp only [not_forall, not_and_or, Bool.not_eq_false, not_not] at hKey
    obtain ⟨a, ha, hOwned | rfl⟩ := hKey
    · obtain ⟨result, hResult, hShown⟩ := h.shown a ha (hSaved a ha)
      obtain ⟨result', hResult', hShown'⟩ := h'.shown a ha (hSaved' a ha)
      cases hResult.symm.trans hResult'
      rw [hShown key hOwned, hShown' key hOwned]
    · exact (hSaved a ha).trans (hSaved' a ha).symm

end Invariant

section Attempts

variable {f : Function} {records : List S3Record} {start w : World}

/-- What the runs of any attempt keep. -/
theorem retried_achieves (hBatch : Batch f records start) (plan : FaultPlan) :
    Achieves f.ingest plan (f.sources records) (fun _ => False) (Retried f records start)
      (fun _ _ => False) where
  same := fun _ _ hAnalytics _ hRaw hTarget h => ⟨h.of_same hRaw hTarget hAnalytics, nofun⟩
  run := fun _ _ _ _ ha hFrame hEffect h => ⟨(h.effect hBatch ha hFrame hEffect).1, nofun, nofun⟩

/-- What the runs of an attempt without a failure achieve. -/
theorem settled_achieves (hBatch : Batch f records start) :
    Achieves f.ingest Plan.healthy (f.sources records) (fun _ => True) (Retried f records start)
      (fun w a => Wins f records start a → w.HasSaved a) where
  same := by
    intro w after hAnalytics _ hRaw hTarget h
    refine ⟨h.of_same hRaw hTarget hAnalytics, fun a hSaved ha => ?_⟩
    rw [World.HasSaved, hAnalytics]
    exact hSaved ha
  run := by
    intro a outcome w after ha hFrame hEffect h
    obtain ⟨hAfter, hKept⟩ := h.effect hBatch ha hFrame hEffect
    exact ⟨hAfter, fun _ hWins => h.saves hBatch hWins hEffect,
      fun b hSaved hWins => hKept b hWins (hSaved hWins)⟩

theorem Retried.repage (h : Retried f records start w) (paging : Paging) :
    Retried f records start { w with paging } :=
  h.of_same rfl rfl rfl

theorem Attempts.retried (hBatch : Batch f records start) (h : Attempts f records start w) :
    Retried f records start w := by
  induction h with
  | none => exact retried_start hBatch
  | @more w _ plan paging ih =>
      obtain ⟨runs, hTrace, hSources, _⟩ :=
        f.handleS3EventAsync_trace plan (some records) 0 { w with paging }
      exact (hTrace.achieves (retried_achieves hBatch plan) hSources (ih.repage paging)).1

/-- An attempt without a failure ends with every deciding event saved. -/
theorem Retried.settles (h : Retried f records start w) (hBatch : Batch f records start)
    (paging : Paging) :
    let after := (f.handleS3EventAsync (some records) Plan.healthy 0 { w with paging }).state
    Retried f records start after ∧ ∀ a, Wins f records start a → after.HasSaved a := by
  intro after
  obtain ⟨runs, hTrace, hAll⟩ := f.handleS3EventAsync_healthy (some records) 0 { w with paging }
  have hRun (a : IngestSource) : a ∈ f.sources records ↔ ∃ run ∈ runs, run.1 = a := by
    rw [← List.mem_map, hAll]
    rfl
  obtain ⟨hAfter, hDone, _⟩ := hTrace.achieves (settled_achieves hBatch)
    (fun run hm => (hRun run.1).mpr ⟨run, hm, rfl⟩) (h.repage paging)
  refine ⟨hAfter, fun a ha => ?_⟩
  obtain ⟨run, hm, rfl⟩ := (hRun a).mp ha.mem
  exact hDone run hm trivial ha

/-- Retry convergence: after any attempts at a batch, one attempt without a
failure leaves the fact objects and state documents that it would have left as
the only attempt. -/
theorem Function.retries_converge (f : Function) {records : List S3Record} {start w : World}
    (hBatch : Batch f records start) (hAttempts : Attempts f records start w)
    (paging paging' : Paging) (key : Str) :
    let retried := f.handleS3EventAsync (some records) Plan.healthy 0 { w with paging }
    let single := f.handleS3EventAsync (some records) Plan.healthy 0 { start with paging := paging' }
    retried.state.analytics.lookup key = single.state.analytics.lookup key := by
  intro retried single
  obtain ⟨hRetried, hSaved⟩ := (hAttempts.retried hBatch).settles hBatch paging
  obtain ⟨hSingle, hSaved'⟩ := (retried_start hBatch).settles hBatch paging'
  exact hRetried.lookup_eq hSingle hSaved hSaved' key

end Attempts

section Example

/-- The record of a version's event. -/
def exampleRecord (v : Version) : S3Record :=
  ⟨some ['b'], some ⟨some ['k'], some v.versionId, some v.sequencer⟩⟩

def exampleRecords : List S3Record := [exampleRecord olderVersion, exampleRecord newerVersion]

/-- The function is stopped between the two outputs of the newer version, when
those of the older one have been published. -/
def exampleStop : FaultPlan := fun calls _ => if calls = 14 then .kill else .pass

/-- The world after an attempt at the two records. -/
def World.attempted (w : World) (plan : FaultPlan) : World :=
  (exampleFunction.handleS3EventAsync (some exampleRecords) plan 0
    { w with paging := Paging.single }).state

theorem exampleRecords_sources {a : IngestSource} (h : a ∈ exampleFunction.sources exampleRecords) :
    ∃ v, (v = olderVersion ∨ v = newerVersion) ∧ a = exampleObject.live v := by
  have hSources : exampleFunction.sources exampleRecords =
      [exampleObject.live olderVersion, exampleObject.live newerVersion] := by decide
  rw [hSources] at h
  rcases List.mem_pair.mp h with rfl | rfl
  · exact ⟨_, Or.inl rfl, rfl⟩
  · exact ⟨_, Or.inr rfl, rfl⟩

theorem exampleRecords_batch : Batch exampleFunction exampleRecords exampleWritten.world := by
  have hSame {a b : IngestSource} (ha : a ∈ exampleFunction.sources exampleRecords)
      (hb : b ∈ exampleFunction.sources exampleRecords) : SameObject a b := by
    obtain ⟨_, _, rfl⟩ := exampleRecords_sources ha
    obtain ⟨_, _, rfl⟩ := exampleRecords_sources hb
    exact ⟨rfl, rfl⟩
  refine ⟨?_, ?_, fun a ha b hb hOther => absurd (hSame ha hb) hOther,
    fun a ha b hb hOther => absurd (hSame ha hb) hOther, ?_⟩
  · intro a ha
    obtain ⟨v, _, rfl⟩ := exampleRecords_sources ha
    exact ⟨v.sequencer, rfl⟩
  · intro a ha
    obtain ⟨v, rfl | rfl, rfl⟩ := exampleRecords_sources ha
    · exact ⟨exampleResult ['a'], Fallible.eq_ok_of_toOption (by decide)⟩
    · exact ⟨exampleResult ['A'], Fallible.eq_ok_of_toOption (by decide)⟩
  · intro a ha b hb _ hRank
    obtain ⟨v, hv, rfl⟩ := exampleRecords_sources ha
    obtain ⟨u, hu, rfl⟩ := exampleRecords_sources hb
    rcases hv with rfl | rfl <;> rcases hu with rfl | rfl
    · rfl
    · exact absurd hRank (by decide)
    · exact absurd hRank (by decide)
    · rfl

/-- The next attempt replaces what the stopped one has left. -/
theorem retries_converge_example :
    ((exampleWritten.world.attempted exampleStop).attempted Plan.healthy).analytics.lookup
        exampleOutputKey =
      (exampleWritten.world.attempted Plan.healthy).analytics.lookup exampleOutputKey := by
  have hAttempt (w : World) (plan : FaultPlan) :
      Attempts exampleFunction exampleRecords w (w.attempted plan) := .more .none plan Paging.single
  have hConverges (w w' : World) (hBatch : Batch exampleFunction exampleRecords w)
      (h : Attempts exampleFunction exampleRecords w w') :
      (w'.attempted Plan.healthy).analytics.lookup exampleOutputKey =
        (w.attempted Plan.healthy).analytics.lookup exampleOutputKey :=
    exampleFunction.retries_converge hBatch h Paging.single Paging.single exampleOutputKey
  exact hConverges _ _ exampleRecords_batch (hAttempt _ exampleStop)

end Example

end KiroIngest
