import KiroUsage.Infra.KiroInfraStack
import KiroUsage.Ingest.Provenance

/-! Whose usage a dashboard can show. The rows of the facts go through the Target List,
and what a query stores can be read by later queries; this module follows the emails of
the rows through whole runs of the deployed stack. -/
namespace KiroInfra

open Text Storage Execution Access KiroIngest ReportTransform

/-- Some object that a query may read has a row of this user. -/
def KiroInfraStack.Shows (stack : KiroInfraStack) (w : World) (email : Str) : Prop :=
  ∃ key body, stack.dashboardsMay getAction stack.analyticsBucket key = true ∧
    w.analytics.lookup key = some body ∧ email ∈ body.emails

/-- The worlds of the deployed stack. The function is invoked, queries store what they
can read, results expire, and reports and the Target List change in any way. -/
inductive KiroInfraStack.Reaches (stack : KiroInfraStack) (f : KiroIngest.Function)
    (plans : World → FaultPlan → Prop) (start : World) : World → Prop
  | start : Reaches stack f plans start start
  | invoke {w : World} {plan : FaultPlan} (h : Reaches stack f plans start w) (hPlan : plans w plan)
      (input : Json) (calls : Nat) : Reaches stack f plans start (f.handleAsync input plan calls w).state
  | store {w : World} (h : Reaches stack f plans start w) {key : Str} {body : ObjectBody}
      (hMay : stack.dashboardsMay putAction stack.analyticsBucket key = true)
      (hRows : ∀ email ∈ body.emails, stack.Shows w email) :
      Reaches stack f plans start { w with analytics := w.analytics.insert key body }
  | expire {w : World} (h : Reaches stack f plans start w) {key : Str}
      (hExpires : KiroInfraStack.expires key = true) :
      Reaches stack f plans start { w with analytics := w.analytics.erase key }
  | other {w after : World} (h : Reaches stack f plans start w)
      (hAnalytics : after.analytics = w.analytics) : Reaches stack f plans start after

/-- The user is on the Target List of a world. -/
def ListedIn (s : IngestService) (w : World) (email : Str) : Prop :=
  ∃ targetList, parseTargetList s.platform w.targetListParameter = .ok targetList ∧
    targetList email = true

section Runs

variable {stack : KiroInfraStack} {f : KiroIngest.Function} {w : World}

/-- A run leaves objects that are not the function's own alone. -/
theorem otherObjects_keptByRuns (s : IngestService) (plan : FaultPlan) (origin : World) :
    KeptByRuns s plan fun w =>
      ∀ key, isIngestKey key = false → w.analytics.lookup key = origin.analytics.lookup key where
  alongside := by
    intro w after hSame hOthers key hKey
    rw [hSame.analytics]
    exact hOthers key hKey
  run := by
    intro source
    rw [keeps_iff]
    intro calls w hOthers key hKey
    have hOwned : owned source key = false := by
      by_contra hOwned
      rw [isIngestKey_owned ((Bool.not_eq_false _).mp hOwned)] at hKey
      cases hKey
    have hState : key ≠ stateKey source := by
      rintro rfl
      rw [isIngestKey_stateKey] at hKey
      cases hKey
    rw [(s.processCsvAsync_effect source plan calls w).2.lookup_other hOwned hState]
    exact hOthers key hKey

/-- What the dashboards may read are facts and query results. -/
theorem dashboardsMay_get_iff (hManaged : ManagedApart stack.managed) (key : Str) :
    stack.dashboardsMay getAction stack.analyticsBucket key = true ↔
      isFactKey key = true ∨ resultsDirectory <+: key := by
  have hNot : getAction ≠ deleteAction := by decide
  simp [dashboardsMay_iff hManaged List.mem_cons_self, hNot]

/-- One invocation shows nobody but those on the Target List. -/
theorem shows_of_invoked (hManaged : ManagedApart stack.managed) (plan : FaultPlan) (calls : Nat)
    (input : Json) {email : Str} (h : stack.Shows (f.handleAsync input plan calls w).state email) :
    stack.Shows w email ∨ ListedIn f.ingest w email := by
  obtain ⟨key, body, hMay, hLookup, hEmail⟩ := h
  rcases (dashboardsMay_get_iff hManaged key).mp hMay with hFact | hResults
  · obtain ⟨_, _, hFacts⟩ := keeps_iff.mp
      ((factsFrom_keptByRuns f.ingest plan w).handleAsync input) calls w
      ⟨rfl, rfl, fun _ _ _ hSame => Or.inl hSame⟩
    rcases hFacts key body hFact hLookup with hBefore | ⟨_, _, targetList, _, _, hTarget, _, _, hListed⟩
    · exact Or.inl ⟨key, body, hMay, hBefore, hEmail⟩
    · exact Or.inr ⟨targetList, hTarget, hListed email hEmail⟩
  · have hKept := keeps_iff.mp ((otherObjects_keptByRuns f.ingest plan w).handleAsync input) calls w
      (fun _ _ => rfl) key (isIngestKey_of_results hResults)
    exact Or.inl ⟨key, body, hMay, hKept.symm.trans hLookup, hEmail⟩

/-- A query result shows nobody who was not shown before. -/
theorem shows_of_stored {stored : Str} {result : ObjectBody}
    (hRows : ∀ email ∈ result.emails, stack.Shows w email) {email : Str}
    (h : stack.Shows { w with analytics := w.analytics.insert stored result } email) :
    stack.Shows w email := by
  obtain ⟨key, body, hMay, hLookup, hEmail⟩ := h
  by_cases hKey : key = stored
  · subst hKey
    cases (AList.lookup_insert w.analytics).symm.trans hLookup
    exact hRows email hEmail
  · rw [AList.lookup_insert_ne hKey] at hLookup
    exact ⟨key, body, hMay, hLookup, hEmail⟩

theorem shows_of_expired {expired email : Str}
    (h : stack.Shows { w with analytics := w.analytics.erase expired } email) : stack.Shows w email := by
  obtain ⟨key, body, hMay, hLookup, hEmail⟩ := h
  by_cases hKey : key = expired
  · subst hKey
    cases (AList.lookup_erase key w.analytics).symm.trans hLookup
  · rw [AList.lookup_erase_ne hKey] at hLookup
    exact ⟨key, body, hMay, hLookup, hEmail⟩

end Runs

/-- The dashboards are fail-closed. Over any run no query may touch a raw report, and
whoever a query can show was shown at the start or was on the Target List of a world that
the run came through. -/
theorem KiroInfraStack.Reaches.shows_listed {stack : KiroInfraStack} {f : KiroIngest.Function}
    {plans : World → FaultPlan → Prop} {start w : World} (hManaged : ManagedApart stack.managed)
    (h : stack.Reaches f plans start w) :
    (∀ action ∈ [getAction, putAction, deleteAction], ∀ key,
      stack.dashboardsMay action stack.rawBucket key = false) ∧
      ∀ email, stack.Shows w email → stack.Shows start email ∨
        ∃ origin, stack.Reaches f plans start origin ∧ ListedIn f.ingest origin email := by
  constructor
  · intro action hAction key
    rw [Bool.eq_false_iff]
    intro hMay
    have hBucket : stack.rawBucket ∈ stack.buckets := List.mem_cons_of_mem _ List.mem_cons_self
    exact stack.analyticsBucket_ne_rawBucket ((dashboardsMay_iff hManaged hBucket hAction key).mp hMay).1
  · intro email hShows
    induction h with
    | start => exact Or.inl hShows
    | @invoke w plan hReached _ input calls ih =>
        rcases shows_of_invoked hManaged plan calls input hShows with hBefore | hListed
        · exact ih hBefore
        · exact Or.inr ⟨w, hReached, hListed⟩
    | store _ _ hRows ih => exact ih (shows_of_stored hRows hShows)
    | expire _ _ ih => exact ih (shows_of_expired hShows)
    | other _ hAnalytics ih =>
        apply ih
        unfold KiroInfraStack.Shows at hShows ⊢
        rwa [hAnalytics] at hShows

section Example

/-- The report of the example is published, a query copies its row, and the row is of a
user on the Target List. -/
theorem shows_listed_example :
    ∃ origin, exampleStack.Reaches exampleNotified (fun _ plan => plan = Plan.healthy) exampleShelf
      origin ∧ ListedIn exampleNotified.ingest origin ['a'] := by
  have hPublished : (exampleNotified.handleAsync exampleNotification Plan.healthy 0
      exampleShelf).state.analytics.lookup exampleOutputKey = some exampleUsage := by
    decide +kernel
  have hFact : exampleStack.dashboardsMay getAction exampleStack.analyticsBucket exampleOutputKey =
      true := (dashboardsMay_get_iff exampleManaged_apart _).mpr (Or.inl rfl)
  have hRow {email : Str} (h : email ∈ exampleUsage.emails) : exampleStack.Shows
      (exampleNotified.handleAsync exampleNotification Plan.healthy 0 exampleShelf).state email :=
    ⟨exampleOutputKey, exampleUsage, hFact, hPublished, h⟩
  have hRun : exampleStack.Reaches exampleNotified (fun _ plan => plan = Plan.healthy) exampleShelf _ :=
    .store (.invoke .start rfl exampleNotification 0) exampleResultKey_may fun _ h => hRow h
  have hResult : exampleStack.dashboardsMay getAction exampleStack.analyticsBucket exampleResultKey =
      true := (dashboardsMay_get_iff exampleManaged_apart _).mpr
        (Or.inr (List.prefix_append resultsDirectory "1.csv".toList))
  refine ((hRun.shows_listed exampleManaged_apart).2 ['a']
    ⟨exampleResultKey, exampleUsage, hResult, AList.lookup_insert _, ?_⟩).resolve_left ?_
  · exact List.mem_cons_self
  · rintro ⟨key, body, _, hLookup, _⟩
    cases (AList.lookup_empty key).symm.trans hLookup

end Example

end KiroInfra
