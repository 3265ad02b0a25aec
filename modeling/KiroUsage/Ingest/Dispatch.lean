import KiroUsage.Ingest.Invocations

/-! The payloads of a backfill. A payload that the scheduler writes is read back,
accepted and dispatched to the same page walk, and an invocation with such a
payload handles the page that its token names. -/
namespace KiroIngest

open Text Storage Execution

/-- The payload is read as this request, and the request is valid. -/
def Requests (payload : Json) (request : BackfillRequest) : Prop :=
  ∃ members mode, payload = .object members ∧
    tryGetProperty members "mode".toList = some (.string mode) ∧
    BackfillRequest.deserialize payload = .ok (some request) ∧ request.validate = .ok ()

theorem Requests.notReversed {payload : Json} {request : BackfillRequest}
    (h : Requests payload request) :
    BackfillRequest.reversed request.fromDate request.toDate = false := by
  obtain ⟨_, _, _, _, _, hValid⟩ := h
  unfold BackfillRequest.validate at hValid
  split_ifs at hValid with _ hReversed
  · exact (Bool.not_eq_true _).mp hReversed

/-- What the scheduler writes is read back, accepted, and continues the backfill
with the same bounds. -/
theorem requests_continuation {fromDate toDate : Option DateOnly} {token : Str}
    (hBounds : BackfillRequest.reversed fromDate toDate = false) (hToken : isBlank token = false) :
    Requests (continuationRequest fromDate toDate token).serialize
      (continuationRequest fromDate toDate token) := by
  refine ⟨_, _, rfl, rfl, BackfillRequest.deserialize_serialize _, ?_⟩
  refine BackfillRequest.validate_continuation hBounds fun t ht => ?_
  cases ht
  exact hToken

namespace Function

variable (f : Function)

/-- The dispatch of a backfill payload ends in the page walk. -/
theorem dispatch_of_requests {payload : Json} {request : BackfillRequest}
    (h : Requests payload request) :
    f.dispatch payload = f.ingest.processBackfillAsync request.fromDate request.toDate
      request.continuationToken := by
  obtain ⟨members, mode, rfl, hMode, hRead, hValid⟩ := h
  unfold dispatch
  simp only [hMode]
  unfold handleModeRequestAsync
  simp only [hRead]
  change (do
    Async.ofExcept request.validate
    f.ingest.processBackfillAsync request.fromDate request.toDate request.continuationToken) = _
  rw [hValid]
  rfl

/-- One invocation for a page, whatever the plan. -/
theorem handleAsync_page {payload : Json} {request : BackfillRequest} (h : Requests payload request)
    (plan : FaultPlan) (calls : Nat) (before : World)
    (hLinked : (before.rawListing request.continuationToken).Linked) :
    let run := f.handleAsync payload plan calls before
    let response := before.rawListing request.continuationToken
    (∃ sent done, PageRun f.ingest request.fromDate request.toDate plan response before sent done
      run.state) ∧
    (run.outcome ≠ .killed → ¬DisturbsPaging plan → ∃ done,
      WholePage f.ingest request.fromDate request.toDate plan response before done run.state) ∧
    (run.outcome = .returned () → ∃ done,
      WholePage f.ingest request.fromDate request.toDate plan response before done run.state ∧
        ∀ run ∈ done, run.2 = .returned ()) := by
  intro run response
  have hTriple : Triple plan (· = before) (f.handleAsync payload)
      ⟨fun _ w => ∃ done,
          WholePage f.ingest request.fromDate request.toDate plan response before done w ∧
            ∀ run ∈ done, run.2 = .returned (),
        fun _ w => (∃ done,
            WholePage f.ingest request.fromDate request.toDate plan response before done w) ∨
          DisturbsPaging plan ∧ ∃ sent,
            PageRun f.ingest request.fromDate request.toDate plan response before sent [] w,
        fun w => ∃ sent done,
          PageRun f.ingest request.fromDate request.toDate plan response before sent done w⟩ := by
    unfold handleAsync
    rw [f.dispatch_of_requests h]
    refine Triple.catching _ ((processBackfillAsync_spec h.notReversed hLinked).strengthen
      fun w hEq => hEq ▸ Aside.refl before) fun error => ?_
    refine Triple.bind (fun _ w => (∃ done,
        WholePage f.ingest request.fromDate request.toDate plan response before done w) ∨
      DisturbsPaging plan ∧ ∃ sent,
        PageRun f.ingest request.fromDate request.toDate plan response before sent [] w)
      (Triple.modify _ ?_) fun _ => Triple.throwing error fun _ h => h
    rintro w (⟨done, hWhole⟩ | ⟨hDisturbs, sent, hPage⟩)
    · exact Or.inl ⟨done, hWhole.trace.logLine _, hWhole.sources⟩
    · exact Or.inr ⟨hDisturbs, sent, hPage.trace.logLine _, hPage.sent_next, hPage.selected⟩
  obtain ⟨_, _, done, hWhole, hReturned⟩ | ⟨_, hThrew, hEnd⟩ | ⟨hKilled, hEnd⟩ := hTriple.ends calls
  · exact ⟨⟨_, done, hWhole.pageRun⟩, fun _ _ => ⟨done, hWhole⟩, fun _ => ⟨done, hWhole, hReturned⟩⟩
  · have hNotReturned : run.outcome ≠ .returned () := fun h => nomatch hThrew.symm.trans h
    rcases hEnd with ⟨done, hWhole⟩ | ⟨hDisturbs, sent, hPage⟩
    · exact ⟨⟨_, done, hWhole.pageRun⟩, fun _ _ => ⟨done, hWhole⟩, fun h => absurd h hNotReturned⟩
    · exact ⟨⟨sent, [], hPage⟩, fun _ h => absurd hDisturbs h, fun h => absurd h hNotReturned⟩
  · exact ⟨hEnd, fun h => absurd hKilled h, fun h => nomatch hKilled.symm.trans h⟩

end Function

end KiroIngest
