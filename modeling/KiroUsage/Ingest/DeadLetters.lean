import KiroUsage.Semantics.DeadLetters
import KiroUsage.Ingest.Rebuild
import KiroUsage.Ingest.PageRetries

/-! What the dead letter queue holds of a backfill. An invocation that has failed too
often, or that has waited too long, leaves its payload there. Nothing that a backfill
has not done is missing from the queue, and sending the payloads again completes it. -/
namespace KiroIngest

open Text Storage Execution

/-- The payload is for a page from which on a page selects the source. -/
def LeadsTo (f : Function) (fromDate toDate : Option DateOnly) (root : Json) (start : World)
    (payload : Json) (source : IngestSource) : Prop :=
  ∃ token later, payload = pagePayload fromDate toDate root token ∧
    Listing.Asked (fun token => (start.rawListing token).served) token later ∧
    source ∈ f.ingest.selected fromDate toDate (start.rawListing later).served.1

section Pages

variable {f : Function} {fromDate toDate : Option DateOnly} {root : Json} {start w : World}
  {listing : Listing Str Str} {pending : List (Json × Nat)} {dead : List Json}
  (hRoot : Requests root ⟨some BackfillRequest.modeValue, fromDate, toDate, none⟩)
  (hListing : RawListing start.rawListing listing) (hInvocations : start.invocations = [])
  (hRuns : (rebuildingHandling f start).LimitedRuns root (1 + maximumRetryAttempts) w pending dead)

include hRoot hListing hInvocations hRuns

/-- The invocation for a page has been asked for, or that for an earlier page is not
settled. -/
theorem asked_or_unsettled {token : Option Str} (hAsked : start.Paged token) :
    pagePayload fromDate toDate root token ∈ root :: w.invocations ∨
      ∃ earlier, pagePayload fromDate toDate root earlier ∈ Handling.unsettled pending dead ∧
        Listing.Asked (fun token => (start.rawListing token).served) earlier token := by
  have hReliable := rebuilding_reliable (f := f) hRoot hListing hInvocations
  obtain ⟨_, _, hAll⟩ := hReliable.handled_or_unsettled hRuns
  induction hAsked with
  | first => exact Or.inl List.mem_cons_self
  | @next token next _ hNext ih =>
      rcases ih with hSent | ⟨earlier, hUnsettled, hBefore⟩
      · rcases hAll _ hSent with hUnsettled | hHandled
        · exact Or.inr ⟨token, hUnsettled, .next .first hNext⟩
        · exact Or.inl (List.mem_cons_of_mem _ ((hHandled token rfl).2 next hNext))
      · exact Or.inr ⟨earlier, hUnsettled, hBefore.next hNext⟩

theorem rebuilt_or_unsettled (hApart : Apart (f.ingest.selected fromDate toDate listing.objects))
    {source : IngestSource} (hSource : source ∈ f.ingest.selected fromDate toDate listing.objects) :
    f.ingest.Rebuilt start w source ∨ ∃ payload ∈ Handling.unsettled pending dead,
      LeadsTo f fromDate toDate root start payload source := by
  have hReliable := rebuilding_reliable (f := f) hRoot hListing hInvocations
  have hRestoring := rebuilding_restoring (f := f) hRoot hListing hApart
  obtain ⟨key, hKey, hSelects, hMade⟩ := IngestService.mem_selected.mp hSource
  obtain ⟨token, hAsked, hPage⟩ := hListing.served.covered start.Paged .first
    (fun token next hAsked hNext => hAsked.next hNext) key hKey
  have hSelected : source ∈ f.ingest.selected fromDate toDate (start.rawListing token).served.1 :=
    IngestService.mem_selected.mpr ⟨key, hPage, hSelects, hMade⟩
  rcases asked_or_unsettled hRoot hListing hInvocations hRuns hAsked with
    hSent | ⟨earlier, hUnsettled, hWalk⟩
  · rcases hRestoring.done_or_unsettled hReliable hRuns _ hSent source
      ⟨⟨token, rfl, hSelected⟩, hSource⟩ with hDone | ⟨payload, hUnsettled, ⟨other, rfl, hOther⟩, _⟩
    · exact Or.inl (hDone hSource)
    · exact Or.inr ⟨_, hUnsettled, other, other, rfl, .first, hOther⟩
  · exact Or.inr ⟨_, hUnsettled, earlier, token, rfl, hWalk, hSelected⟩

end Pages

/-- No report of a backfill is lost, if none within the bounds is published under a name of
another one. At any moment the objects of a report within the bounds are those that it
stands for, or an invocation for its page or for one before it is pending or a dead letter.
Once nothing is pending, the dead letters are invocations of this backfill that cover all
reports that are not rebuilt; if there are none, or they have all been sent again and have
returned, the tables are rebuilt. -/
theorem Function.dead_letters_cover (f : Function) {fromDate toDate : Option DateOnly} {root : Json}
    {listing : Listing Str Str} {start w : World} {pending : List (Json × Nat)} {dead : List Json}
    (hRoot : Requests root ⟨some BackfillRequest.modeValue, fromDate, toDate, none⟩)
    (hListing : RawListing start.rawListing listing) (hInvocations : start.invocations = [])
    (hApart : Apart (f.ingest.selected fromDate toDate listing.objects))
    (hRuns : (rebuildingHandling f start).LimitedRuns root (1 + maximumRetryAttempts) w pending dead) :
    (∀ source ∈ f.ingest.selected fromDate toDate listing.objects, f.ingest.Rebuilt start w source ∨
      (∃ payload ∈ pending.map Prod.fst, LeadsTo f fromDate toDate root start payload source) ∨
      ∃ payload ∈ dead, LeadsTo f fromDate toDate root start payload source) ∧
    (∀ payload ∈ dead, ∃ token, start.Paged token ∧
      Requests payload ⟨some BackfillRequest.modeValue, fromDate, toDate, token⟩) ∧
    KeepsOthers (f.ingest.selected fromDate toDate listing.objects) start w := by
  have hReliable := rebuilding_reliable (f := f) hRoot hListing hInvocations
  obtain ⟨⟨_, hPages, hRebuilding⟩, hKnown, _⟩ := hReliable.handled_or_unsettled hRuns
  refine ⟨fun source hSource => ?_, fun payload hDead => ?_, hRebuilding.others⟩
  · rcases rebuilt_or_unsettled hRoot hListing hInvocations hRuns hApart hSource with
      hRebuilt | ⟨payload, hUnsettled, hLeads⟩
    · exact Or.inl hRebuilt
    · rcases Handling.mem_unsettled.mp hUnsettled with hPending | hDead
      · exact Or.inr (Or.inl ⟨payload, hPending, hLeads⟩)
      · exact Or.inr (Or.inr ⟨payload, hDead, hLeads⟩)
  · obtain ⟨token, hAsked, rfl⟩ :=
      hPages.page (hKnown payload (Handling.mem_unsettled.mpr (Or.inr hDead)))
    exact ⟨token, hAsked, requests_pagePayload hRoot hListing hAsked⟩

/-- The asynchronous invocations of one backfill, however their calls fare. In between
anything may change but the listing. An invocation that has returned may still be
repeated. -/
def redelivering (f : Function) (start : World) : Redelivery World Json (Option Str) where
  initial := (· = start)
  sent := World.invocations
  attempt := fun w payload failed after => ∃ plan before,
    before.rawListing = w.rawListing ∧ before.invocations = w.invocations ∧
      let run := f.handleAsync payload plan 0 before
      (failed = false → run.outcome = .returned ()) ∧ after = run.state
  name := pageToken
  maximum := 1 + maximumRetryAttempts

section Bound

variable {f : Function} {fromDate toDate : Option DateOnly} {root : Json} {start : World}
  {listing : Listing Str Str}
  (hRoot : Requests root ⟨some BackfillRequest.modeValue, fromDate, toDate, none⟩)
  (hListing : RawListing start.rawListing listing)

include hRoot hListing

/-- An attempt for a page asks for the page after it at most. -/
theorem redelivering_descending :
    (redelivering f start).Descending root (fun w => w.rawListing = start.rawListing)
      (PayloadOf fromDate toDate root start) start.nextPages where
  positive := Nat.succ_pos _
  first := ⟨none, .first, rfl⟩
  initial := by
    rintro _ rfl
    rfl
  attempt := by
    rintro w _ failed _ hSame ⟨token, hAsked, rfl⟩ ⟨plan, before, hListed, hInvocations, _, rfl⟩
    have hRespond : before.rawListing = start.rawListing := hListed.trans hSame
    obtain ⟨⟨sent, runs, hPage⟩, _, _⟩ :=
      f.handleAsync_page (requests_pagePayload hRoot hListing hAsked) plan 0 before
        (by rw [hRespond]; exact hListing.linked token hAsked)
    have hFrame := hPage.trace.frame
    have hNewly : (redelivering f start).newly w
        (f.handleAsync (pagePayload fromDate toDate root token) plan 0 before).state = sent := by
      unfold Redelivery.newly
      rw [show (redelivering f start).sent = World.invocations from rfl, hFrame.invocations,
        ← hInvocations]
      exact List.drop_left
    have hSent : sent = [] ∨ sent = continuations fromDate toDate (start.rawListing token) := by
      rw [← hRespond]
      exact hPage.sent_next
    rw [hNewly, show (redelivering f start).name = pageToken from rfl, pageToken_pagePayload hRoot]
    refine ⟨hFrame.rawListing.trans hRespond, ?_, fun new hNew => ?_⟩
    · rcases hSent with rfl | rfl
      · exact List.nil_sublist _
      · have hNames : (continuations fromDate toDate (start.rawListing token)).map pageToken =
            start.nextPages token := by
          rw [continuations, World.nextPages, List.map_map]
          exact List.map_congr_left fun next _ => pageToken_pagePayload hRoot (some next)
        rw [hNames]
    · rcases hSent with rfl | rfl
      · cases hNew
      · obtain ⟨next, hNext, rfl⟩ := List.mem_map.mp hNew
        exact ⟨some next, hAsked.next (Option.mem_toList.mp hNext), rfl⟩

/-- The cost of a page covers what all attempts for it can lead to. -/
theorem redelivering_cost {payload : Json} (hPayload : PayloadOf fromDate toDate root start payload) :
    let cost := Listing.costFrom (fun token => (start.rawListing token).served)
      fun _ => (redelivering f start).maximum
    1 + ((start.nextPages ((redelivering f start).name payload)).map fun name =>
      (redelivering f start).maximum * cost name).sum ≤ cost ((redelivering f start).name payload) := by
  obtain ⟨token, hAsked, rfl⟩ := hPayload
  intro cost
  rw [show (redelivering f start).name = pageToken from rfl, pageToken_pagePayload hRoot,
    show cost token = _ from hAsked.costFrom_eq hListing.served _, World.nextPages, List.map_map]
  exact Nat.le_refl _

end Bound

/-- The function that invokes itself does not run away. Whatever fails and whatever changes
but the listing, a backfill of some pages makes a bounded number of attempts, and every
run of it can be run to its end. -/
theorem Function.backfill_bounded (f : Function) {fromDate toDate : Option DateOnly} {root : Json}
    {listing : Listing Str Str} {start w : World} {pending : List (Json × Nat)} {attempts : List Json}
    (hRoot : Requests root ⟨some BackfillRequest.modeValue, fromDate, toDate, none⟩)
    (hListing : RawListing start.rawListing listing)
    (hRuns : (redelivering f start).Runs root w pending attempts) :
    maximumRetryAttempts * attempts.length + (1 + maximumRetryAttempts) ≤
        (1 + maximumRetryAttempts) ^ (listing.length + 1) ∧
      ∃ after more, (redelivering f start).Runs root after [] (attempts ++ more) := by
  have hDescending := redelivering_descending (f := f) hRoot hListing
  have hCost (payload : Json) (h : PayloadOf fromDate toDate root start payload) :=
    redelivering_cost (f := f) hRoot hListing h
  constructor
  · have hBound := (hDescending.attempts_le hCost hRuns).2.2
    have hFirst : (redelivering f start).name root = none := pageToken_pagePayload hRoot none
    have hWhole := hListing.served.costFrom_eq fun _ => (redelivering f start).maximum
    have hTotal := listing.cost_const maximumRetryAttempts
    rw [hFirst, hWhole] at hBound
    have hAttempts : attempts.length ≤
        (1 + maximumRetryAttempts) * listing.cost fun _ => 1 + maximumRetryAttempts :=
      (Nat.le_add_right _ _).trans hBound
    rw [Nat.pow_succ, ← hTotal]
    calc maximumRetryAttempts * attempts.length + (1 + maximumRetryAttempts)
        ≤ maximumRetryAttempts * ((1 + maximumRetryAttempts) *
            listing.cost fun _ => 1 + maximumRetryAttempts) + (1 + maximumRetryAttempts) := by gcongr
      _ = (maximumRetryAttempts * (listing.cost fun _ => 1 + maximumRetryAttempts) + 1) *
            (1 + maximumRetryAttempts) := by ring
  · refine hDescending.finishes hCost (fun w payload _ _ => ?_) hRuns
    exact ⟨true, _, Plan.healthy, w, rfl, rfl, nofun, rfl⟩

section Example

/-- An attempt for two reports fails, the payload then waits too long, is sent again and
returns. -/
theorem dead_letters_cover_example :
    (∀ source ∈ exampleService.selected (some exampleDate) (some exampleNextDate) exampleKeys,
      exampleService.Rebuilt exampleNamesakes (exampleTorn.invoked exampleTwoDays) source ∨
        (∃ payload ∈ ([] : List (Json × Nat)).map Prod.fst, LeadsTo exampleFunction (some exampleDate)
          (some exampleNextDate) exampleTwoDays exampleNamesakes payload source) ∨
        ∃ payload ∈ ([] : List Json), LeadsTo exampleFunction (some exampleDate)
          (some exampleNextDate) exampleTwoDays exampleNamesakes payload source) ∧
      KeepsOthers (exampleService.selected (some exampleDate) (some exampleNextDate) exampleKeys)
        exampleNamesakes (exampleTorn.invoked exampleTwoDays) := by
  let h := rebuildingHandling exampleFunction exampleNamesakes
  have hNewly {w after : World} (hSent : after.invocations = []) : h.newly w after = [] := by
    unfold Handling.newly
    rw [show h.sent = World.invocations from rfl, hSent, List.drop_nil]
  have hStart : h.LimitedRuns exampleTwoDays (1 + maximumRetryAttempts) exampleNamesakes
      ([] ++ (exampleTwoDays, 0) :: []) [] := .start rfl
  have hTorn : h.LimitedRuns exampleTwoDays (1 + maximumRetryAttempts) exampleTorn
      ([] ++ (exampleTwoDays, 1) :: []) [] := by
    have hAttempt : h.attempt exampleNamesakes exampleTwoDays exampleTorn := ⟨_, Paging.single, rfl⟩
    have hRuns := hStart.retry hAttempt (by decide)
    rwa [hNewly exampleTorn_sent] at hRuns
  have hDead : h.LimitedRuns exampleTwoDays (1 + maximumRetryAttempts) exampleTorn []
      ([] ++ exampleTwoDays :: []) := hTorn.expire
  have hAgain : h.LimitedRuns exampleTwoDays (1 + maximumRetryAttempts) exampleTorn
      ([] ++ (exampleTwoDays, 0) :: []) [] := hDead.redrive
  have hRuns := hAgain.acknowledge (⟨Plan.healthy, Paging.single, exampleTorn_returned, rfl⟩ :
    h.acknowledged exampleTorn exampleTwoDays (exampleTorn.invoked exampleTwoDays))
  rw [hNewly exampleTorn_invoked_sent] at hRuns
  obtain ⟨hCovered, _, hOthers⟩ := exampleFunction.dead_letters_cover exampleTwoDays_requests
    exampleNamesakes_listing rfl exampleNamesakes_apart hRuns
  exact ⟨hCovered, hOthers⟩

/-- An attempt of the example has been made, and the backfill can be run to its end. -/
theorem backfill_bounded_example :
    ∃ w pending, (redelivering exampleFunction exampleBefore).Runs exampleDay w pending [exampleDay] ∧
      ∃ after more, (redelivering exampleFunction exampleBefore).Runs exampleDay after []
        ([exampleDay] ++ more) := by
  let r := redelivering exampleFunction exampleBefore
  have hAttempt : r.attempt exampleBefore exampleDay true
      (exampleFunction.handleAsync exampleDay Plan.healthy 0 exampleBefore).state :=
    ⟨Plan.healthy, exampleBefore, rfl, rfl, nofun, rfl⟩
  have hStart : r.Runs exampleDay exampleBefore ([] ++ (exampleDay, 0) :: []) [] := .start rfl
  have hRuns := hStart.attempt hAttempt
  exact ⟨_, _, hRuns,
    (exampleFunction.backfill_bounded exampleDay_requests exampleBefore_listing hRuns).2⟩

end Example

end KiroIngest
