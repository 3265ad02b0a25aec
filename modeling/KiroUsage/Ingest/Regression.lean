import KiroUsage.Ingest.Convergence

/-! Runs in which any call may fail. A backfill saves no sequencer, and neither
does a run whose last write fails, so a late event can still put older facts
back. It cannot where the saved sequencer keeps up with what was published. -/
namespace KiroIngest

open Text Storage Execution ReportTransform

/-- Every invocation, with any pattern of failures, is allowed. -/
def AnyInvocation {o : RawObject} {parameter : Option Str} :
    SourceState o parameter → Invocation → FaultPlan → Paging → Prop :=
  fun _ _ _ _ => True

/-- An event older than a published version only arrives while a sequencer at
least as great as its own is saved. -/
def InOrder {o : RawObject} {parameter : Option Str} :
    SourceState o parameter → Invocation → FaultPlan → Paging → Prop :=
  fun st i _ _ => ∀ v, i = .live v → (∃ u ∈ st.published, v.rank < u.rank) →
    ∃ u ∈ st.versions, st.Saved u ∧ v.rank ≤ u.rank

namespace SourceState

variable {s : IngestService} {o : RawObject} {parameter : Option Str}
  {st : SourceState o parameter}

/-- Every visible output is one of a version that is no older. -/
def NoOlderThan (s : IngestService) (st : SourceState o parameter) (u : Version) : Prop :=
  ∀ output ∈ st.world.outputs o.backfill, ∃ w ∈ st.versions, u.rank ≤ w.rank ∧
    ∃ result, generation s parameter w = .ok result ∧ output ∈ prepareOutputs o.backfill result

/-- No published version is newer than what is visible. -/
structure Forward (s : IngestService) (st : SourceState o parameter) : Prop where
  published_written : ∀ u ∈ st.published, u ∈ st.versions
  no_older : ∀ u ∈ st.published, st.NoOlderThan s u

/-- An invocation that changes outputs reads a version as new as all that have
been published. -/
theorem Forward.rank_le (h : st.Forward s) {i : Invocation}
    {plan : FaultPlan} {paging : Paging} (hInOrder : InOrder st i plan paging)
    (hStale : st.world.staleEvent (i.source o) = .ok false) {u v : Version}
    (hReads : st.reads i = some v) (hu : u ∈ st.published) : u.rank ≤ v.rank := by
  cases i with
  | backfill => exact st.rank_le_newest (h.published_written u hu) hReads
  | live w =>
      cases hReads
      by_contra hOlder
      obtain ⟨saved, _, hSavedBy, hCovers⟩ := hInOrder v rfl ⟨u, hu, by omega⟩
      rw [st.staleEvent_of_savedVersion hSavedBy v] at hStale
      simp [hCovers] at hStale

theorem NoOlderThan.of_analytics {st' : SourceState o parameter} {u : Version}
    (h : st.NoOlderThan s u) (hVersions : st'.versions = st.versions)
    (hAnalytics : st'.world.analytics = st.world.analytics) : st'.NoOlderThan s u := by
  intro output hOutput
  rw [mem_outputs, hAnalytics, ← mem_outputs] at hOutput
  rw [hVersions]
  exact h output hOutput

/-- One invocation keeps the order. -/
theorem Forward.invoke (h : st.Forward s) (i : Invocation) (plan : FaultPlan) (paging : Paging)
    (hWritten : ∀ v, i = .live v → v ∈ st.versions) (hInOrder : InOrder st i plan paging) :
    (st.invoke s i plan paging).Forward s := by
  cases st.change i plan paging hWritten with
  | skipped _ hAnalytics hPublished =>
      refine ⟨fun u hu => h.published_written u (hPublished ▸ hu), fun u hu => ?_⟩
      exact (h.no_older u (hPublished ▸ hu)).of_analytics rfl hAnalytics
  | interrupted _ hAnalytics hPublished =>
      refine ⟨fun u hu => h.published_written u (hPublished ▸ hu), fun u hu => ?_⟩
      exact (h.no_older u (hPublished ▸ hu)).of_analytics rfl hAnalytics
  | torn v accepted hReads hStale hGeneration _ hMixed hPublished =>
      have hv := st.mem_of_reads i hWritten hReads
      refine ⟨fun u hu => h.published_written u (hPublished ▸ hu), ?_⟩
      rintro u hu ⟨key, body⟩ hOutput
      rw [hPublished] at hu
      obtain ⟨hOwned, hBody⟩ := mem_outputs.mp hOutput
      rcases (hMixed key).1 hOwned with hNone | hOld | hNew
      · cases hBody.symm.trans hNone
      · exact h.no_older u hu (key, body) (mem_outputs.mpr ⟨hOwned, hOld.symm.trans hBody⟩)
      · exact ⟨v, hv, h.rank_le hInOrder hStale hReads hu, accepted, hGeneration,
          mem_of_written (hNew.symm.trans hBody)⟩
  | complete v accepted hReads hStale hGeneration hShown _ hPublished =>
      have hv := st.mem_of_reads i hWritten hReads
      have hMem {u : Version} (hu : u ∈ (st.invoke s i plan paging).published) :
          u ∈ st.published ∨ u = v := by
        rw [hPublished] at hu
        simpa using hu
      refine ⟨fun u hu => ?_, ?_⟩
      · rcases hMem hu with hu | rfl
        · exact h.published_written u hu
        · exact hv
      · rintro u hu ⟨key, body⟩ hOutput
        obtain ⟨hOwned, hBody⟩ := mem_outputs.mp hOutput
        refine ⟨v, hv, ?_, accepted, hGeneration, mem_of_written ((hShown key hOwned).symm.trans hBody)⟩
        rcases hMem hu with hu | rfl
        · exact h.rank_le hInOrder hStale hReads hu
        · exact le_rfl

theorem Forward.write (h : st.Forward s) (v : Version) (hNewer : st.Newer v) :
    (st.write v hNewer).Forward s := by
  refine ⟨fun u hu => List.mem_append_left _ (h.published_written u hu), ?_⟩
  intro u hu output hOutput
  obtain ⟨w, hw, hOrigin⟩ := h.no_older u hu output hOutput
  exact ⟨w, List.mem_append_left _ hw, hOrigin⟩

end SourceState

end KiroIngest
