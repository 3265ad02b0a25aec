import KiroUsage.Ingest.Function
import KiroUsage.Ingest.Outputs
import KiroUsage.Semantics.Simulation

/-! The footprint of the ingest function: the requests that an invocation may
make, and what follows for two worlds or two plans that these requests cannot
tell apart. Each program is gone through once, for any relation that its
requests keep. -/
namespace KiroIngest

open Text Storage Execution

/-- The directories of the two facts. -/
def factPrefixes : List Str := [usageDailyPrefix ++ ['/'], modelMessagesPrefix ++ ['/']]

/-- What an invocation is about: the sources that it may process, and the pages of the
raw bucket that it may ask for. -/
structure Scope where
  sources : IngestSource → Prop
  tokens : Option Str → Prop

/-- The requests of an invocation in this scope. -/
def Touches (scope : Scope) : AwsCall → Prop
  | .getState key => ∃ source, scope.sources source ∧ key = stateKey source
  | .getRaw bucket key versionId => ∃ source, scope.sources source ∧ bucket = source.bucket ∧
      key = source.key ∧ versionId = source.versionId
  | .getParameter => True
  | .listAnalytics keyPrefix _ => keyPrefix ∈ factPrefixes
  | .putObject key => ∃ source, scope.sources source ∧ (owned source key = true ∨ key = stateKey source)
  | .deleteObject key => ∃ source, scope.sources source ∧ owned source key = true
  | .listRaw token => scope.tokens token
  | .invokeLambda payload => payload.mode = some BackfillRequest.modeValue

/-- A listing of a fact holds objects of the facts. -/
theorem isFactKey_of_listed {w : World} {keyPrefix key : Str} (hPrefix : keyPrefix ∈ factPrefixes)
    (h : key ∈ (w.listAnalytics keyPrefix).objects) : isFactKey key = true := by
  have hFilter := (List.mem_filter.mp ((w.paging.complete _ _ _).mp h)).2
  simp only [factPrefixes, List.mem_cons, List.not_mem_nil, or_false] at hPrefix
  rw [isFactKey, Bool.or_eq_true]
  rcases hPrefix with rfl | rfl
  · exact Or.inl hFilter
  · exact Or.inr hFilter

/-- Worlds and plans that the processing of such sources cannot tell apart. -/
structure Respects (platform : Platform) (scope : Scope) (plan plan' : FaultPlan)
    (relation : World → World → Prop) : Prop where
  plans : ∀ calls request, Touches scope request → plan calls request = plan' calls request
  log : ∀ {w w'}, relation w w' → ∀ event,
    relation { w with log := w.log ++ [event] } { w' with log := w'.log ++ [event] }
  history : ∀ {w w'}, relation w w' → ∀ event,
    relation { w with history := w.history ++ [event] } { w' with history := w'.history ++ [event] }
  readState : ∀ {w w'}, relation w w' → ∀ source, scope.sources source →
    w.readState (stateKey source) = w'.readState (stateKey source)
  readRaw : ∀ {w w'}, relation w w' → ∀ source, scope.sources source →
    w.readRaw source.bucket source.key source.versionId =
      w'.readRaw source.bucket source.key source.versionId
  targetList : ∀ {w w'}, relation w w' →
    parseTargetList platform w.targetListParameter = parseTargetList platform w'.targetListParameter
  listing : ∀ {w w'}, relation w w' → ∀ keyPrefix ∈ factPrefixes,
    w.listAnalytics keyPrefix = w'.listAnalytics keyPrefix
  put : ∀ {w w'}, relation w w' → ∀ key body, Touches scope (.putObject key) →
    relation { w with analytics := w.analytics.insert key body }
      { w' with analytics := w'.analytics.insert key body }
  delete : ∀ {w w'}, relation w w' → ∀ key, Touches scope (.deleteObject key) →
    relation { w with analytics := w.analytics.erase key }
      { w' with analytics := w'.analytics.erase key }

/-- Nor can the walk over the pages of a backfill. -/
structure RespectsPages (s : IngestService) (scope : Scope) (plan plan' : FaultPlan)
    (relation : World → World → Prop) : Prop extends
    Respects s.platform scope plan plan' relation where
  rawListing : ∀ {w w'}, relation w w' → ∀ token, scope.tokens token →
    w.rawListing token = w'.rawListing token
  listed : ∀ {w w'}, relation w w' → ∀ token, scope.tokens token →
    ∀ key ∈ (w.rawListing token).s3Objects.getD [], ∀ source,
      IngestSource.create s.rawBucket key none none = .ok source → scope.sources source
  invoke : ∀ {w w'}, relation w w' → ∀ payload,
    relation { w with invocations := w.invocations ++ [payload] }
      { w' with invocations := w'.invocations ++ [payload] }

/-- The `catch` clause may delete outputs of the source only. -/
structure Bookkeeping.SameOutputs (source : IngestSource) (vars vars' : Bookkeeping) : Prop where
  same : vars = vars'
  outputs : ∀ key ∈ vars.existingOutputKeys ++ vars.attemptedOutputKeys, owned source key = true

theorem sameOutputs_initial (source : IngestSource) : Bookkeeping.SameOutputs source {} {} :=
  ⟨rfl, nofun⟩

namespace Respects

variable {platform : Platform} {s : IngestService} {scope : Scope}
  {plan plan' : FaultPlan} {relation : World → World → Prop} {source : IngestSource}

theorem query {α : Type} {values : α → α → Prop} (h : Respects platform scope plan plan' relation)
    {request : AwsCall} (hTouches : Touches scope request) {answer : World → Except Exn α}
    (hAnswer : ∀ w w', relation w w' → Alike values (answer w) (answer w')) :
    Simulates plan plan' relation values (awsQuery request answer) (awsQuery request answer) :=
  Simulates.call (fun calls => h.plans calls request hTouches) hAnswer fun _ _ hState => hState

theorem logLine (h : Respects platform scope plan plan' relation) (event : LogEvent) :
    Simulates plan plan' relation Eq (logLine event) (KiroIngest.logLine event) :=
  Simulates.modify rfl fun _ _ hState => h.log hState event

theorem record (h : Respects platform scope plan plan' relation) (event : HistoryEvent) :
    Simulates plan plan' relation Eq (record event) (KiroIngest.record event) :=
  Simulates.modify rfl fun _ _ hState => h.history hState event

theorem update (h : Respects platform scope plan plan' relation) {request : AwsCall}
    (hTouches : Touches scope request) {update : World → World}
    (hUpdate : ∀ w w', relation w w' → relation (update w) (update w')) :
    Simulates plan plan' relation Eq (awsUpdate request update) (awsUpdate request update) := by
  unfold awsUpdate aws
  apply Simulates.call
  · exact fun calls => h.plans calls request hTouches
  · exact fun _ _ _ => .ok rfl
  · exact hUpdate

theorem putObject (h : Respects platform scope plan plan' relation) {key : Str}
    (hTouches : Touches scope (.putObject key)) (body : ObjectBody) :
    Simulates plan plan' relation Eq (putObject key body) (KiroIngest.putObject key body) :=
  h.update hTouches fun _ _ hState => h.put hState key body hTouches

theorem deleteOutputAsync (h : Respects platform scope plan plan' relation) {key : Str}
    (hTouches : Touches scope (.deleteObject key)) :
    Simulates plan plan' relation Eq (deleteOutputAsync key) (KiroIngest.deleteOutputAsync key) :=
  h.update hTouches fun _ _ hState => h.delete hState key hTouches

theorem isStaleEventAsync (h : Respects platform scope plan plan' relation)
    (hSource : scope.sources source) :
    Simulates plan plan' relation Eq (isStaleEventAsync source)
      (KiroIngest.isStaleEventAsync source) := by
  unfold KiroIngest.isStaleEventAsync
  cases source.sequencer with
  | none => exact Simulates.done rfl
  | some sequencer =>
      have hTouches : Touches scope (.getState (stateKey source)) := ⟨source, hSource, rfl⟩
      have hRead : Simulates plan plan' relation Eq (readSequencerAsync source)
          (readSequencerAsync source) := by
        refine Simulates.catching (h.query hTouches fun w w' hState => ?_) fun error => ?_
        · rw [h.readState hState source hSource]
          exact Alike.refl fun _ _ => rfl
        · split_ifs
          · exact Simulates.done rfl
          · exact Simulates.throwing error
      refine Simulates.bind hRead ?_
      rintro saved _ rfl
      exact Simulates.ofExcept (Alike.refl fun _ _ => rfl)

theorem warnOnKeyDateMismatch (h : Respects platform scope plan plan' relation)
    (result : TransformResult) :
    Simulates plan plan' relation Eq (warnOnKeyDateMismatch source result)
      (KiroIngest.warnOnKeyDateMismatch source result) := by
  unfold KiroIngest.warnOnKeyDateMismatch
  cases extractDateFromKey source.key with
  | none => exact Simulates.done rfl
  | some keyDate =>
      dsimp only
      split_ifs
      · exact h.logLine _
      · exact Simulates.done rfl

/-- The outputs that are prepared are those of the source. -/
theorem prepareAsync (h : Respects s.platform scope plan plan' relation)
    (hSource : scope.sources source) :
    Simulates plan plan' relation
      (fun prepared prepared' => prepared = prepared' ∧
        ∀ key ∈ prepared.2.map Prod.fst, owned source key = true)
      (s.prepareAsync source) (s.prepareAsync source) := by
  have hReport : Touches scope (.getRaw source.bucket source.key source.versionId) :=
    ⟨source, hSource, rfl, rfl, rfl⟩
  have hParameter : Touches scope .getParameter := trivial
  have hRead : Simulates plan plan' relation Eq (readObjectTextAsync source)
      (readObjectTextAsync source) := by
    refine h.query hReport fun w w' hState => ?_
    rw [h.readRaw hState source hSource]
    exact Alike.refl fun _ _ => rfl
  have hTargets : Simulates plan plan' relation Eq (getTargetListAsync s.platform)
      (getTargetListAsync s.platform) := by
    refine h.query hParameter fun w w' hState => ?_
    rw [h.targetList hState]
    exact Alike.refl fun _ _ => rfl
  refine Simulates.bind hRead ?_
  rintro csv _ rfl
  refine Simulates.bind hTargets ?_
  rintro targetList _ rfl
  refine Simulates.bind (Simulates.ofExcept_self _) ?_
  rintro result _ ⟨rfl, _⟩
  refine Simulates.bind (h.warnOnKeyDateMismatch result) fun _ _ _ => ?_
  exact Simulates.done ⟨rfl, owned_of_mem_prepareOutputs⟩

/-- The pages of a listing, from some page on. -/
theorem listMatches (h : Respects platform scope plan plan' relation) {keyPrefix : Str}
    (hPrefix : keyPrefix ∈ factPrefixes) (listing : Listing Str Str) (token : Option Str)
    (found : List Str) (hListing : ∀ key ∈ listing.objects, isFactKey key = true)
    (hFound : ∀ key ∈ found, owned source key = true) :
    Simulates plan plan' relation
      (fun keys keys' => keys = keys' ∧ ∀ key ∈ keys, owned source key = true)
      (listMatches source keyPrefix listing token found)
      (KiroIngest.listMatches source keyPrefix listing token found) := by
  have hTouches (token : Option Str) : Touches scope (.listAnalytics keyPrefix token) := hPrefix
  have hMore {page found : List Str} (hPage : ∀ key ∈ page, isFactKey key = true)
      (hFound : ∀ key ∈ found, owned source key = true) :
      ∀ key ∈ found ++ page.filter (isOutputOf source), owned source key = true := by
    intro key hm
    rcases List.mem_append.mp hm with hm | hm
    · exact hFound key hm
    · obtain ⟨hKey, hOutput⟩ := List.mem_filter.mp hm
      rw [owned, hPage key hKey, hOutput]
      rfl
  have hResponse (listing : Listing Str Str) (token : Option Str) :
      Simulates plan plan' relation
        (fun response response' => response = response' ∧ response.s3Objects.getD [] = listing.page)
        (awsQuery (.listAnalytics keyPrefix token) fun _ =>
          .ok (ListObjectsV2Response.ofListing listing))
        (awsQuery (.listAnalytics keyPrefix token) fun _ =>
          .ok (ListObjectsV2Response.ofListing listing)) :=
    h.query (hTouches token) fun _ _ _ =>
      .ok ⟨rfl, ListObjectsV2Response.ofListing_objects listing⟩
  induction listing generalizing token found with
  | last page =>
      refine Simulates.bind (hResponse (.last page) token) ?_
      rintro response _ ⟨rfl, hPage⟩
      refine Simulates.bind (Simulates.ofExcept_self _) fun _ _ _ => ?_
      rw [hPage]
      exact Simulates.done ⟨rfl, hMore hListing hFound⟩
  | more page next rest ih =>
      have hParts := List.forall_mem_append.mp hListing
      refine Simulates.bind (hResponse (.more page next rest) token) ?_
      rintro response _ ⟨rfl, hPage⟩
      refine Simulates.bind (Simulates.ofExcept_self _) ?_
      rintro token _ ⟨rfl, _⟩
      rw [hPage]
      exact ih token _ hParts.2 (hMore hParts.1 hFound)

/-- Every object that is found is an output of the source. -/
theorem findExistingOutputKeysAsync (h : Respects platform scope plan plan' relation) :
    Simulates plan plan' relation
      (fun keys keys' => keys = keys' ∧ ∀ key ∈ keys, owned source key = true)
      (findExistingOutputKeysAsync source) (KiroIngest.findExistingOutputKeysAsync source) := by
  have hListing {keyPrefix : Str} (hPrefix : keyPrefix ∈ factPrefixes) :
      Simulates plan plan' relation
        (fun listing listing' => listing = listing' ∧
          ∀ key ∈ listing.objects, isFactKey key = true)
        (Async.inspect fun w => w.listAnalytics keyPrefix : Ingest (Listing Str Str))
        (Async.inspect fun w => w.listAnalytics keyPrefix : Ingest (Listing Str Str)) :=
    Simulates.inspect fun w w' hState =>
      ⟨h.listing hState keyPrefix hPrefix, fun key hm => isFactKey_of_listed hPrefix hm⟩
  have hUsage : usageDailyPrefix ++ ['/'] ∈ factPrefixes := List.mem_cons_self
  have hModel : modelMessagesPrefix ++ ['/'] ∈ factPrefixes :=
    List.mem_cons_of_mem _ List.mem_cons_self
  refine Simulates.bind (hListing hUsage) ?_
  rintro usageListing _ ⟨rfl, hUsageListed⟩
  refine Simulates.bind (h.listMatches hUsage usageListing none [] hUsageListed nofun) ?_
  rintro found _ ⟨rfl, hFound⟩
  refine Simulates.bind (hListing hModel) ?_
  rintro modelListing _ ⟨rfl, hModelFacts⟩
  refine Simulates.bind (h.listMatches hModel modelListing none found hModelFacts hFound) ?_
  rintro found _ ⟨rfl, hFound⟩
  exact Simulates.done ⟨rfl, fun key hm => hFound key (List.mem_eraseDups.mp hm)⟩

theorem tryDeleteOutputsAsync (h : Respects platform scope plan plan' relation)
    (hSource : scope.sources source) {keys : List Str} (hKeys : ∀ key ∈ keys, owned source key = true) :
    Simulates plan plan' relation Eq (tryDeleteOutputsAsync keys source)
      (KiroIngest.tryDeleteOutputsAsync keys source) := by
  refine Simulates.forEach fun key hm => ?_
  have hTouches : Touches scope (.deleteObject key) := ⟨source, hSource, hKeys key hm⟩
  refine Simulates.bind (Simulates.attempt (h.deleteOutputAsync hTouches)) ?_
  rintro failure _ rfl
  cases failure with
  | none => exact Simulates.done rfl
  | some cleanupError => exact h.logLine _

/-- The two loops of the publication, beside their bookkeeping. -/
theorem publishOutputs (h : Respects platform scope plan plan' relation)
    (hSource : scope.sources source) {outputs : List (Str × ObjectBody)} {existingOutputKeys : List Str}
    (hOutputs : ∀ key ∈ outputs.map Prod.fst, owned source key = true)
    (hExisting : ∀ key ∈ existingOutputKeys, owned source key = true) :
    Simulates plan plan' (Beside relation (Bookkeeping.SameOutputs source)) Eq
      (publishOutputs outputs existingOutputKeys)
      (KiroIngest.publishOutputs outputs existingOutputKeys) := by
  refine Simulates.bind (Simulates.forEach fun output hm => ?_) fun _ _ _ => ?_
  · have hOwned := hOutputs output.1 (List.mem_map_of_mem hm)
    have hTouches : Touches scope (.putObject output.1) := ⟨source, hSource, Or.inl hOwned⟩
    refine Simulates.bind (Simulates.assign ?_) fun _ _ _ =>
      Simulates.lift (h.putObject hTouches output.2)
    rintro vars _ ⟨rfl, hVars⟩
    refine ⟨rfl, fun key hKey => ?_⟩
    rw [← List.append_assoc] at hKey
    rcases List.mem_append.mp hKey with hKey | hKey
    · exact hVars key hKey
    · rw [List.mem_singleton.mp hKey]
      exact hOwned
  · refine Simulates.forEach fun key hm => Simulates.lift (h.deleteOutputAsync ?_)
    exact ⟨source, hSource, hExisting key (List.mem_filter.mp hm).1⟩

theorem finishAsync (h : Respects platform scope plan plan' relation) (hSource : scope.sources source)
    (result : TransformResult) :
    Simulates plan plan' relation Eq (finishAsync source result)
      (KiroIngest.finishAsync source result) := by
  have hSave : Simulates plan plan' relation Eq (saveLiveSequencer source)
      (saveLiveSequencer source) := by
    unfold saveLiveSequencer
    cases source.sequencer with
    | none => exact Simulates.done rfl
    | some sequencer => exact h.putObject ⟨source, hSource, Or.inr rfl⟩ _
  refine Simulates.bind (h.record _) fun _ _ _ => ?_
  exact Simulates.bind hSave fun _ _ _ => h.logLine _

theorem failClosed (h : Respects platform scope plan plan' relation) (hSource : scope.sources source)
    {vars : Bookkeeping} (hVars : ∀ key ∈ vars.existingOutputKeys ++ vars.attemptedOutputKeys,
      owned source key = true) (error : Exn) :
    Simulates plan plan' relation Eq (failClosed source vars error)
      (KiroIngest.failClosed source vars error) := by
  have hRemove : Simulates plan plan' relation Eq (removeUnlessComplete source vars)
      (removeUnlessComplete source vars) := by
    unfold removeUnlessComplete
    split_ifs
    · exact h.tryDeleteOutputsAsync hSource fun key hm => hVars key (List.mem_eraseDups.mp hm)
    · exact Simulates.done rfl
  refine Simulates.bind hRemove fun _ _ _ => ?_
  exact Simulates.bind (h.logLine _) fun _ _ _ => Simulates.throwing error

theorem tryProcessCsv (h : Respects s.platform scope plan plan' relation)
    (hSource : scope.sources source) :
    Simulates plan plan' (Beside relation (Bookkeeping.SameOutputs source)) Eq (s.tryProcessCsv source)
      (s.tryProcessCsv source) := by
  refine Simulates.bind (Simulates.lift (h.isStaleEventAsync hSource)) ?_
  rintro stale _ rfl
  cases stale with
  | true => exact Simulates.lift (h.logLine _)
  | false =>
      refine Simulates.bind (Simulates.lift (h.prepareAsync hSource)) ?_
      rintro ⟨result, outputs⟩ _ ⟨rfl, hOutputs⟩
      refine Simulates.bind (Simulates.lift h.findExistingOutputKeysAsync) ?_
      rintro existing _ ⟨rfl, hExisting⟩
      refine Simulates.bind (Simulates.assign ?_) fun _ _ _ => ?_
      · rintro vars _ ⟨rfl, hVars⟩
        refine ⟨rfl, fun key hKey => ?_⟩
        rcases List.mem_append.mp hKey with hKey | hKey
        · exact hExisting key hKey
        · exact hVars key (List.mem_append_right _ hKey)
      · refine Simulates.bind (h.publishOutputs hSource hOutputs hExisting) fun _ _ _ => ?_
        refine Simulates.bind (Simulates.assign ?_) fun _ _ _ => ?_
        · rintro vars _ ⟨rfl, hVars⟩
          exact ⟨rfl, hVars⟩
        · exact Simulates.lift (h.finishAsync hSource result)

/-- `ProcessCsvAsync` stays within its footprint. -/
theorem processCsvAsync (h : Respects s.platform scope plan plan' relation)
    (hSource : scope.sources source) :
    Simulates plan plan' relation Eq (s.processCsvAsync source) (s.processCsvAsync source) := by
  refine Simulates.bind (h.record _) fun _ _ _ => ?_
  refine Simulates.catchingWith (sameOutputs_initial source) (h.tryProcessCsv hSource) ?_
  rintro vars _ error ⟨rfl, hVars⟩
  exact h.failClosed hSource hVars error

end Respects

/-- A payload with a mode asks for the page of its token. -/
def Asks (input : Json) (token : Option Str) : Prop :=
  ∃ members, input = .object members ∧ (tryGetProperty members "mode".toList).isSome = true ∧
    ∃ request, BackfillRequest.deserialize input = .ok (some request) ∧
      request.continuationToken = token

/-- The sources of the records in an S3 event. -/
def Function.Notifies (f : Function) (input : Json) (source : IngestSource) : Prop :=
  ∃ records, f.deserializeS3Event input = .ok (some records) ∧
    ∃ record ∈ records.getD [], record.source f.ingest.platform = .ok source

namespace RespectsPages

variable {s : IngestService} {f : Function} {scope : Scope}
  {plan plan' : FaultPlan} {relation : World → World → Prop}

theorem scheduleNext (h : RespectsPages s scope plan plan' relation)
    (fromDate toDate : Option DateOnly) (token : Option Str) :
    Simulates plan plan' relation Eq (s.scheduleNext fromDate toDate token)
      (s.scheduleNext fromDate toDate token) := by
  unfold IngestService.scheduleNext
  cases token with
  | none => exact Simulates.done rfl
  | some token =>
      have hTouches : Touches scope
          (.invokeLambda (continuationRequest fromDate toDate token)) := rfl
      refine Simulates.catching (h.update hTouches fun _ _ hState => ?_) fun _ =>
        Simulates.throwing _
      exact h.invoke hState _

theorem backfillObject (h : RespectsPages s scope plan plan' relation)
    (fromDate toDate : Option DateOnly) {key : Str}
    (hKey : ∀ source, IngestSource.create s.rawBucket key none none = .ok source →
      scope.sources source) :
    Simulates plan plan' relation Eq (s.backfillObject fromDate toDate key)
      (s.backfillObject fromDate toDate key) := by
  unfold IngestService.backfillObject
  split_ifs
  · cases extractDateFromKey key with
    | none => exact Simulates.bind (h.logLine _) fun _ _ _ => Simulates.done rfl
    | some keyDate =>
        dsimp only
        split_ifs
        · exact Simulates.done rfl
        · have hProcess : Simulates plan plan' relation Eq
              (do let source ← Async.ofExcept (IngestSource.create s.rawBucket key none none)
                  s.processCsvAsync source)
              (do let source ← Async.ofExcept (IngestSource.create s.rawBucket key none none)
                  s.processCsvAsync source) := by
            refine Simulates.bind (Simulates.ofExcept_self _) ?_
            rintro source _ ⟨rfl, hSource⟩
            exact h.processCsvAsync (hKey source hSource)
          refine Simulates.bind (Simulates.attempt hProcess) ?_
          rintro failure _ rfl
          exact Simulates.done rfl
  · exact Simulates.done rfl

theorem backfillObjects (h : RespectsPages s scope plan plan' relation)
    (fromDate toDate : Option DateOnly) (keys : List Str) (processed : Nat) (failures : List Exn)
    (hKeys : ∀ key ∈ keys, ∀ source,
      IngestSource.create s.rawBucket key none none = .ok source → scope.sources source) :
    Simulates plan plan' relation Eq (s.backfillObjects fromDate toDate keys processed failures)
      (s.backfillObjects fromDate toDate keys processed failures) := by
  induction keys generalizing processed failures with
  | nil => exact Simulates.done rfl
  | cons key rest ih =>
      have hParts := List.forall_mem_cons.mp hKeys
      refine Simulates.bind (h.backfillObject fromDate toDate hParts.1) ?_
      rintro ⟨count, errors⟩ _ rfl
      exact ih _ _ hParts.2

theorem processBackfillAsync (h : RespectsPages s scope plan plan' relation)
    (fromDate toDate : Option DateOnly) {token : Option Str} (hToken : scope.tokens token) :
    Simulates plan plan' relation Eq (s.processBackfillAsync fromDate toDate token)
      (s.processBackfillAsync fromDate toDate token) := by
  have hTouches : Touches scope (.listRaw token) := hToken
  have hPage : Simulates plan plan' relation
      (fun response response' => response = response' ∧ ∀ key ∈ response.s3Objects.getD [],
        ∀ source, IngestSource.create s.rawBucket key none none = .ok source → scope.sources source)
      (awsQuery (.listRaw token) fun w => .ok (w.rawListing token))
      (awsQuery (.listRaw token) fun w => .ok (w.rawListing token)) := by
    refine h.query hTouches fun w w' hState => ?_
    rw [← h.rawListing hState token hToken]
    exact .ok ⟨rfl, h.listed hState token hToken⟩
  unfold IngestService.processBackfillAsync
  split_ifs
  · exact Simulates.throwing _
  refine Simulates.bind (h.logLine _) fun _ _ _ => ?_
  refine Simulates.bind hPage ?_
  rintro response _ ⟨rfl, hListed⟩
  refine Simulates.bind (Simulates.ofExcept_self _) ?_
  rintro next _ ⟨rfl, _⟩
  refine Simulates.bind (h.scheduleNext fromDate toDate next) fun _ _ _ => ?_
  refine Simulates.bind (h.backfillObjects fromDate toDate _ 0 [] hListed) ?_
  rintro ⟨processed, failures⟩ _ rfl
  refine Simulates.bind (h.logLine _) fun _ _ _ => ?_
  split_ifs
  · exact Simulates.throwing _
  · exact Simulates.done rfl

theorem handleRecords (h : RespectsPages f.ingest scope plan plan' relation)
    (records : List S3Record) (failures : List Exn)
    (hRecords : ∀ record ∈ records, ∀ source,
      record.source f.ingest.platform = .ok source → scope.sources source) :
    Simulates plan plan' relation Eq (f.handleRecords records failures)
      (f.handleRecords records failures) := by
  induction records generalizing failures with
  | nil => exact Simulates.done rfl
  | cons record rest ih =>
      have hParts := List.forall_mem_cons.mp hRecords
      have hProcess : Simulates plan plan' relation Eq
          (do let source ← Async.ofExcept (record.source f.ingest.platform)
              f.ingest.processCsvAsync source)
          (do let source ← Async.ofExcept (record.source f.ingest.platform)
              f.ingest.processCsvAsync source) := by
        refine Simulates.bind (Simulates.ofExcept_self _) ?_
        rintro source _ ⟨rfl, hSource⟩
        exact h.processCsvAsync (hParts.1 source hSource)
      refine Simulates.bind (Simulates.attempt hProcess) ?_
      rintro failure _ rfl
      exact ih _ hParts.2

theorem dispatch (h : RespectsPages f.ingest scope plan plan' relation) {input : Json}
    (hSources : ∀ source, f.Notifies input source → scope.sources source)
    (hTokens : ∀ token, Asks input token → scope.tokens token) :
    Simulates plan plan' relation Eq (f.dispatch input) (f.dispatch input) := by
  unfold Function.dispatch
  split
  · rename_i members
    split
    · rename_i mode hMode
      unfold Function.handleModeRequestAsync
      split
      · refine Simulates.bind (Simulates.ofExcept_self _) ?_
        rintro request _ ⟨rfl, hRequest⟩
        cases request with
        | none => exact Simulates.throwing _
        | some backfill =>
            exact Simulates.bind (Simulates.ofExcept_self _) fun _ _ _ =>
              h.processBackfillAsync _ _
                (hTokens _ ⟨members, rfl, by rw [hMode]; rfl, backfill, hRequest, rfl⟩)
      · exact Simulates.throwing _
    · split
      · refine Simulates.bind (Simulates.ofExcept_self _) ?_
        rintro event _ ⟨rfl, hEvent⟩
        cases event with
        | none => exact Simulates.throwing _
        | some records =>
            refine Simulates.bind (h.handleRecords _ _ fun record hm source hSource => ?_) ?_
            · exact hSources source ⟨records, hEvent, record, hm, hSource⟩
            · rintro failures _ rfl
              split_ifs
              · exact Simulates.throwing _
              · exact Simulates.done rfl
      · exact Simulates.throwing _
  · exact Simulates.throwing _

/-- An invocation stays within the footprint of the sources in its event and in
the listing of the raw bucket. -/
theorem handleAsync (h : RespectsPages f.ingest scope plan plan' relation) {input : Json}
    (hSources : ∀ source, f.Notifies input source → scope.sources source)
    (hTokens : ∀ token, Asks input token → scope.tokens token) :
    Simulates plan plan' relation Eq (f.handleAsync input) (f.handleAsync input) :=
  Simulates.catching (h.dispatch hSources hTokens) fun error =>
    Simulates.bind (h.logLine _) fun _ _ _ => Simulates.throwing error

end RespectsPages

end KiroIngest
