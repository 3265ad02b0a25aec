import KiroUsage.Ingest.Footprint
import KiroUsage.Ingest.PoisonPages

/-! What an invocation depends on: the reports that it may process, the listing of
the raw bucket, the Target List and the function's own objects of the analytics
bucket. Query results, other reports and everything said and done before make no
difference, and none of them is changed. -/
namespace KiroIngest

open Text Storage Execution

/-- The keys that the function uses in the analytics bucket. -/
def isIngestKey (key : Str) : Bool := isFactKey key || (statePrefix ++ ['/']).isPrefixOf key

theorem isIngestKey_stateKey (source : IngestSource) : isIngestKey (stateKey source) = true := by
  have hPrefix : (statePrefix ++ ['/']).isPrefixOf (stateKey source) = true := by
    rw [List.isPrefixOf_iff_prefix]
    exact ⟨ReportTransform.sourceId source.bucket source.key ++ ".json".toList, by
      simp only [stateKey, List.append_assoc, List.cons_append, List.nil_append]⟩
  rw [isIngestKey, hPrefix, Bool.or_true]

theorem isIngestKey_owned {source : IngestSource} {key : Str} (h : owned source key = true) :
    isIngestKey key = true := by
  rw [owned, Bool.and_eq_true] at h
  rw [isIngestKey, h.1, Bool.true_or]

theorem isIngestKey_of_put {scope : Scope} {key : Str}
    (h : Touches scope (.putObject key)) : isIngestKey key = true := by
  obtain ⟨source, _, hOwned | rfl⟩ := h
  · exact isIngestKey_owned hOwned
  · exact isIngestKey_stateKey source

theorem isIngestKey_of_delete {scope : Scope} {key : Str}
    (h : Touches scope (.deleteObject key)) : isIngestKey key = true := by
  obtain ⟨source, _, hOwned⟩ := h
  exact isIngestKey_owned hOwned

theorem isIngestKey_of_listed {keyPrefix key : Str} (hPrefix : keyPrefix ∈ factPrefixes)
    (h : keyPrefix.isPrefixOf key = true) : isIngestKey key = true := by
  simp only [factPrefixes, List.mem_cons, List.not_mem_nil, or_false] at hPrefix
  rcases hPrefix with rfl | rfl
  · simp [isIngestKey, isFactKey, h]
  · simp [isIngestKey, isFactKey, h]

/-- The scope covers an invocation: the sources of its event, the page that it asks
for, and the sources on that page. -/
structure Function.Covers (f : Function) (scope : Scope) (w : World) (input : Json) : Prop where
  notified : ∀ source, f.Notifies input source → scope.sources source
  asked : ∀ token, Asks input token → scope.tokens token
  listed : ∀ token, scope.tokens token → ∀ key ∈ (w.rawListing token).s3Objects.getD [],
    ∀ source, IngestSource.create f.ingest.rawBucket key none none = .ok source →
      scope.sources source

/-- Two worlds that agree on what the processing of such sources reads. -/
structure SameFootprint (platform : Platform) (scope : Scope) (w w' : World) :
    Prop where
  raw : ∀ source, scope.sources source → w.readRaw source.bucket source.key source.versionId =
    w'.readRaw source.bucket source.key source.versionId
  rawListing : ∀ token, scope.tokens token → w.rawListing token = w'.rawListing token
  paging : w.paging = w'.paging
  targetList : parseTargetList platform w.targetListParameter =
    parseTargetList platform w'.targetListParameter
  analytics : w.analytics.part isIngestKey = w'.analytics.part isIngestKey

/-- The same has been added to two lists. -/
def GrownAlike {Item : Type} (before after before' after' : List Item) : Prop :=
  ∃ more, after = before ++ more ∧ after' = before' ++ more

theorem GrownAlike.refl {Item : Type} (before before' : List Item) :
    GrownAlike before before before' before' :=
  ⟨[], (List.append_nil _).symm, (List.append_nil _).symm⟩

theorem GrownAlike.append {Item : Type} {before after before' after' : List Item}
    (h : GrownAlike before after before' after') (more : List Item) :
    GrownAlike before (after ++ more) before' (after' ++ more) := by
  obtain ⟨first, rfl, rfl⟩ := h
  exact ⟨first ++ more, List.append_assoc .., List.append_assoc ..⟩

/-- What surrounds the function: the reports, the parameter and the objects of the
analytics bucket that it does not use. -/
structure Surroundings where
  raw : List RawVersion
  rawListing : Option Str → ListObjectsV2Response
  paging : Paging
  targetListParameter : Option Str
  others : Str → Option ObjectBody

def World.surroundings (w : World) : Surroundings where
  raw := w.raw
  rawListing := w.rawListing
  paging := w.paging
  targetListParameter := w.targetListParameter
  others key := if isIngestKey key then none else w.analytics.lookup key

/-- An edit of the analytics bucket at one of the function's keys. -/
theorem surroundings_edit {w : World} {bucket : Bucket Str ObjectBody} {key : Str}
    (hKey : isIngestKey key = true)
    (h : ∀ other, other ≠ key → bucket.lookup other = w.analytics.lookup other) :
    { w with analytics := bucket }.surroundings = w.surroundings := by
  have hOthers (other : Str) : (if isIngestKey other then none else bucket.lookup other) =
      if isIngestKey other then none else w.analytics.lookup other := by
    split_ifs with hOther
    · rfl
    · refine h other ?_
      rintro rfl
      exact hOther hKey
  simp only [World.surroundings, hOthers]

/-- Two worlds that have changed in the same way. -/
structure ChangedAlike (before before' after after' : World) : Prop where
  analytics : after.analytics.part isIngestKey = after'.analytics.part isIngestKey
  log : GrownAlike before.log after.log before'.log after'.log
  history : GrownAlike before.history after.history before'.history after'.history
  invocations : GrownAlike before.invocations after.invocations before'.invocations
    after'.invocations
  surroundings : after.surroundings = before.surroundings
  surroundings' : after'.surroundings = before'.surroundings

section Respected

variable {s : IngestService} {scope : Scope} {before before' : World}

/-- Worlds that have changed in the same way since they agreed cannot be told apart. -/
theorem respects_changedAlike (h : SameFootprint s.platform scope before before')
    (plan : FaultPlan) :
    Respects s.platform scope plan plan (ChangedAlike before before') where
  plans := fun _ _ _ => rfl
  log := fun hState event =>
    ⟨hState.analytics, hState.log.append [event], hState.history, hState.invocations,
      hState.surroundings, hState.surroundings'⟩
  history := fun hState event =>
    ⟨hState.analytics, hState.log, hState.history.append [event], hState.invocations,
      hState.surroundings, hState.surroundings'⟩
  readState := fun hState source _ => by
    rw [World.readState, World.readState,
      Bucket.lookup_of_part hState.analytics (isIngestKey_stateKey source)]
  readRaw := fun {w w'} hState source hSource => by
    have hRaw : w.raw = before.raw := congrArg Surroundings.raw hState.surroundings
    have hRaw' : w'.raw = before'.raw := congrArg Surroundings.raw hState.surroundings'
    have hSame := h.raw source hSource
    rw [World.readRaw, World.readRaw] at hSame ⊢
    rw [hRaw, hRaw', hSame]
  targetList := fun {w w'} hState => by
    have hList : w.targetListParameter = before.targetListParameter :=
      congrArg Surroundings.targetListParameter hState.surroundings
    have hList' : w'.targetListParameter = before'.targetListParameter :=
      congrArg Surroundings.targetListParameter hState.surroundings'
    rw [hList, hList', h.targetList]
  listing := fun {w w'} hState keyPrefix hPrefix => by
    have hPaging : w.paging = before.paging := congrArg Surroundings.paging hState.surroundings
    have hPaging' : w'.paging = before'.paging := congrArg Surroundings.paging hState.surroundings'
    rw [World.listAnalytics, World.listAnalytics, hPaging, hPaging', h.paging,
      Bucket.keys_filter_of_part hState.analytics fun _ hKey => isIngestKey_of_listed hPrefix hKey]
  put := fun hState key body hTouches =>
    have hKey := isIngestKey_of_put hTouches
    ⟨Bucket.part_insert hState.analytics key body, hState.log, hState.history, hState.invocations,
      (surroundings_edit hKey fun _ hOther => AList.lookup_insert_ne hOther).trans
        hState.surroundings,
      (surroundings_edit hKey fun _ hOther => AList.lookup_insert_ne hOther).trans
        hState.surroundings'⟩
  delete := fun hState key hTouches =>
    have hKey := isIngestKey_of_delete hTouches
    ⟨Bucket.part_erase hState.analytics key, hState.log, hState.history, hState.invocations,
      (surroundings_edit hKey fun _ hOther => AList.lookup_erase_ne hOther).trans
        hState.surroundings,
      (surroundings_edit hKey fun _ hOther => AList.lookup_erase_ne hOther).trans
        hState.surroundings'⟩

end Respected

/-- An invocation sees nothing of the world but its footprint: from two worlds that
agree there it ends in the same way after the same number of calls and makes the same
changes. -/
theorem Function.handleAsync_changedAlike (f : Function) {input : Json} {scope : Scope}
    {w w' : World} (h : SameFootprint f.ingest.platform scope w w') (hScope : f.Covers scope w input)
    (plan : FaultPlan) (calls : Nat) :
    (f.handleAsync input plan calls w).Matches (ChangedAlike w w') Eq
      (f.handleAsync input plan calls w') := by
  have hListing {after before : World} (hState : after.surroundings = before.surroundings) :
      after.rawListing = before.rawListing :=
    congrArg Surroundings.rawListing hState
  have hPages : RespectsPages f.ingest scope plan plan (ChangedAlike w w') := by
    refine ⟨respects_changedAlike h plan, ?_, ?_, ?_⟩
    · intro after after' hState token hToken
      rw [hListing hState.surroundings, hListing hState.surroundings', h.rawListing token hToken]
    · intro after after' hState token hToken key hKey source hSource
      rw [hListing hState.surroundings] at hKey
      exact hScope.listed token hToken key hKey source hSource
    · intro after after' hState payload
      exact ⟨hState.analytics, hState.log, hState.history, hState.invocations.append [payload],
        hState.surroundings, hState.surroundings'⟩
  have hStart : ChangedAlike w w' w w' :=
    ⟨h.analytics, .refl _ _, .refl _ _, .refl _ _, rfl, rfl⟩
  exact hPages.handleAsync hScope.notified hScope.asked calls w w' hStart

section Agreement

variable {platform : Platform} {scope : Scope} {w w' w'' after after' : World}

theorem SameFootprint.refl (platform : Platform) (scope : Scope) (w : World) :
    SameFootprint platform scope w w :=
  ⟨fun _ _ => rfl, fun _ _ => rfl, rfl, rfl, rfl⟩

theorem SameFootprint.symm (h : SameFootprint platform scope w w') :
    SameFootprint platform scope w' w :=
  ⟨fun source hSource => (h.raw source hSource).symm,
    fun token hToken => (h.rawListing token hToken).symm, h.paging.symm,
    h.targetList.symm, h.analytics.symm⟩

theorem SameFootprint.trans (h : SameFootprint platform scope w w')
    (h' : SameFootprint platform scope w' w'') : SameFootprint platform scope w w'' :=
  ⟨fun source hSource => (h.raw source hSource).trans (h'.raw source hSource),
    fun token hToken => (h.rawListing token hToken).trans (h'.rawListing token hToken),
    h.paging.trans h'.paging, h.targetList.trans h'.targetList, h.analytics.trans h'.analytics⟩

/-- Athena stores a query result, or any other object that is not the function's. -/
theorem sameFootprint_insert {key : Str} (hKey : isIngestKey key = false) (body : ObjectBody) :
    SameFootprint platform scope w { w with analytics := w.analytics.insert key body } :=
  ⟨fun _ _ => rfl, fun _ _ => rfl, rfl, rfl, (Bucket.part_insert_of_not hKey body).symm⟩

/-- A query result expires. -/
theorem sameFootprint_erase {key : Str} (hKey : isIngestKey key = false) :
    SameFootprint platform scope w { w with analytics := w.analytics.erase key } :=
  ⟨fun _ _ => rfl, fun _ _ => rfl, rfl, rfl, (Bucket.part_erase_of_not hKey).symm⟩

/-- Another report arrives and is listed. -/
theorem sameFootprint_write {version : RawVersion}
    (hOther : ∀ source, scope.sources source → ¬(version.bucket = source.bucket ∧
      version.key = source.key))
    {rawListing : Option Str → ListObjectsV2Response}
    (hListing : ∀ token, scope.tokens token → w.rawListing token = rawListing token) :
    SameFootprint platform scope w
      { w with raw := w.raw ++ [version], rawListing := rawListing } := by
  refine ⟨fun source hSource => ?_, hListing, rfl, rfl, rfl⟩
  have hNone : ¬(version.bucket = source.bucket ∧ version.key = source.key ∧
      (source.versionId = none ∨ source.versionId = some version.versionId)) :=
    fun h => hOther source hSource ⟨h.1, h.2.1⟩
  simp only [World.readRaw, List.filter_append, List.filter_cons, List.filter_nil, hNone,
    decide_false, Bool.false_eq_true, if_false, List.append_nil]

/-- Worlds that agreed and have changed in the same way agree again. -/
theorem SameFootprint.changed (h : SameFootprint platform scope w w')
    (hChanged : ChangedAlike w w' after after') : SameFootprint platform scope after after' := by
  have hLeft {Value : Type} (view : Surroundings → Value) :=
    congrArg view hChanged.surroundings
  have hRight {Value : Type} (view : Surroundings → Value) :=
    congrArg view hChanged.surroundings'
  refine ⟨fun source hSource => ?_, ?_, ?_, ?_, hChanged.analytics⟩
  · have hRaw : after.raw = w.raw := hLeft Surroundings.raw
    have hRaw' : after'.raw = w'.raw := hRight Surroundings.raw
    have hSame := h.raw source hSource
    rw [World.readRaw, World.readRaw] at hSame ⊢
    rw [hRaw, hRaw', hSame]
  · intro token hToken
    have hListing : after.rawListing = w.rawListing := hLeft Surroundings.rawListing
    have hListing' : after'.rawListing = w'.rawListing := hRight Surroundings.rawListing
    rw [hListing, hListing', h.rawListing token hToken]
  · exact (hLeft Surroundings.paging).trans (h.paging.trans (hRight Surroundings.paging).symm)
  · have hList : after.targetListParameter = w.targetListParameter :=
      hLeft Surroundings.targetListParameter
    have hList' : after'.targetListParameter = w'.targetListParameter :=
      hRight Surroundings.targetListParameter
    rw [hList, hList', h.targetList]

end Agreement

/-- One invocation after another, each under a plan of its own. -/
def Function.handleAll (f : Function) : List (Json × FaultPlan) → World →
    List (Outcome Exn Unit) × World
  | [], w => ([], w)
  | (input, plan) :: rest, w =>
    let run := f.handleAsync input plan 0 w
    let (outcomes, after) := f.handleAll rest run.state
    (run.outcome :: outcomes, after)

/-- The same invocations, while others use the buckets. What these do in between
leaves the footprint as it is. -/
inductive Function.Interleaved (f : Function) (scope : Scope) :
    List (Json × FaultPlan) → World → List (Outcome Exn Unit) → World → Prop
  | nil (w : World) : Interleaved f scope [] w [] w
  | invoke {rest : List (Json × FaultPlan)} {outcomes : List (Outcome Exn Unit)} {after : World}
      (input : Json) (plan : FaultPlan) (w : World)
      (hRest : Interleaved f scope rest (f.handleAsync input plan 0 w).state outcomes after) :
      Interleaved f scope ((input, plan) :: rest) w
        ((f.handleAsync input plan 0 w).outcome :: outcomes) after
  | other {invocations : List (Json × FaultPlan)} {outcomes : List (Outcome Exn Unit)}
      {w w' after : World} (h : SameFootprint f.ingest.platform scope w w')
      (hRest : Interleaved f scope invocations w' outcomes after) :
      Interleaved f scope invocations w outcomes after

/-- The listing of the raw bucket decides whether a scope covers an invocation. -/
theorem Function.Covers.of_listing {f : Function} {scope : Scope} {w w' : World} {input : Json}
    (h : f.Covers scope w input)
    (hListing : ∀ token, scope.tokens token → w.rawListing token = w'.rawListing token) :
    f.Covers scope w' input :=
  ⟨h.notified, h.asked, fun token hToken => hListing token hToken ▸ h.listed token hToken⟩

/-- A run among others and the same run in a calm world that agrees with theirs. -/
theorem Function.Interleaved.agrees {f : Function} {scope : Scope}
    {invocations : List (Json × FaultPlan)} {w calm after : World}
    {outcomes : List (Outcome Exn Unit)} (h : f.Interleaved scope invocations w outcomes after)
    (hScope : ∀ invocation ∈ invocations, f.Covers scope w invocation.1)
    (hAgree : SameFootprint f.ingest.platform scope w calm) :
    (f.handleAll invocations calm).1 = outcomes ∧
      SameFootprint f.ingest.platform scope after (f.handleAll invocations calm).2 := by
  induction h generalizing calm with
  | nil w => exact ⟨rfl, hAgree⟩
  | @invoke rest outcomes after input plan w hRest ih =>
      obtain ⟨hOutcome, _, hChanged⟩ :=
        f.handleAsync_changedAlike hAgree (hScope (input, plan) List.mem_cons_self) plan 0
      have hListing : (f.handleAsync input plan 0 w).state.rawListing = w.rawListing :=
        congrArg Surroundings.rawListing hChanged.surroundings
      have hRestScope (invocation : Json × FaultPlan) (hm : invocation ∈ rest) :
          f.Covers scope (f.handleAsync input plan 0 w).state invocation.1 :=
        (hScope invocation (List.mem_cons_of_mem _ hm)).of_listing fun token _ => by rw [hListing]
      obtain ⟨hOutcomes, hAfter⟩ := ih hRestScope (hAgree.changed hChanged)
      exact ⟨congrArg₂ List.cons hOutcome.eq.symm hOutcomes, hAfter⟩
  | other hOther hRest ih =>
      refine ih (fun invocation hm => ?_) (hOther.symm.trans hAgree)
      exact (hScope invocation hm).of_listing hOther.rawListing

/-- Whatever others do to query results, other reports and the log before, between or
after the invocations: each invocation ends as it does without them, and the function's
own objects end up the same. -/
theorem Function.Interleaved.undisturbed {f : Function} {scope : Scope}
    {invocations : List (Json × FaultPlan)} {w after : World} {outcomes : List (Outcome Exn Unit)}
    (h : f.Interleaved scope invocations w outcomes after)
    (hScope : ∀ invocation ∈ invocations, f.Covers scope w invocation.1) :
    outcomes = (f.handleAll invocations w).1 ∧
      ∀ key, isIngestKey key = true →
        after.analytics.lookup key = (f.handleAll invocations w).2.analytics.lookup key := by
  obtain ⟨hOutcomes, hAfter⟩ := h.agrees hScope (SameFootprint.refl _ _ w)
  exact ⟨hOutcomes.symm, fun key hKey => Bucket.lookup_of_part hAfter.analytics hKey⟩

section Example

def exampleNotification : Json := .object [("Records".toList, .array [.null])]

/-- A function whose events all have the one record of the example. -/
def exampleNotified : Function := ⟨exampleService, fun _ => .ok (some (some [exampleEvent]))⟩

def exampleScope : Scope := ⟨fun source => source = exampleLive, fun _ => False⟩

theorem exampleScope_covers (w : World) :
    exampleNotified.Covers exampleScope w exampleNotification := by
  refine ⟨?_, ?_, fun _ h => h.elim⟩
  · rintro source ⟨_, ⟨⟩, record, hRecord, hSource⟩
    rw [List.mem_singleton.mp hRecord] at hSource
    exact Except.ok.inj (hSource.symm.trans exampleEvent_source)
  · rintro token ⟨_, ⟨⟩, hMode, _⟩
    cases hMode

/-- The key of a query result. -/
def exampleResultKey : Str := "athena-results/1.csv".toList

/-- A query result comes in before the event of the example, and expires after it. -/
theorem undisturbed_example :
    let queried := { exampleShelf with
      analytics := exampleShelf.analytics.insert exampleResultKey (.bytes []) }
    [(exampleNotified.handleAsync exampleNotification Plan.healthy 0 queried).outcome] =
      (exampleNotified.handleAll [(exampleNotification, Plan.healthy)] exampleShelf).1 := by
  have hKey : isIngestKey exampleResultKey = false := by decide
  have hRun : exampleNotified.Interleaved exampleScope [(exampleNotification, Plan.healthy)]
      exampleShelf _ _ :=
    .other (sameFootprint_insert hKey (.bytes [])) (.invoke exampleNotification Plan.healthy _
      (.other (sameFootprint_erase hKey) (.nil _)))
  exact (hRun.undisturbed fun invocation hm => by
    rw [List.mem_singleton.mp hm]
    exact exampleScope_covers exampleShelf).1

end Example

end KiroIngest
