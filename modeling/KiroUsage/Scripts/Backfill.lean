import KiroUsage.Text.DateOrder
import KiroUsage.Ingest.DeadLetters

/-! The script `backfill.sh`: how it reads its options, what it refuses, and the payload
that it submits for asynchronous processing. It compares dates as texts, and the function
reads them as dates; this module says that the two agree. -/
namespace KiroScripts

open Text Storage Execution KiroIngest

/-- The variables that the options set. They are empty at first. -/
structure Options where
  fromText : Str := []
  toText : Str := []

def unboundError : Str := "$2: unbound variable".toList

/-- The loop over the arguments. Each option takes a value. -/
def readOptions : List Str → Options → Except Str Options
  | [], options => .ok options
  | [option], _ =>
    if option = "--from".toList ∨ option = "--to".toList then .error unboundError
    else .error ("Unknown option: ".toList ++ option)
  | option :: value :: rest, options =>
    if option = "--from".toList then readOptions rest { options with fromText := value }
    else if option = "--to".toList then readOptions rest { options with toText := value }
    else .error ("Unknown option: ".toList ++ option)

/-- The pattern `^[0-9]{4}-[0-9]{2}-[0-9]{2}$`. -/
def matchesDate : Str → Bool
  | [y₁, y₂, y₃, y₄, '-', m₁, m₂, '-', d₁, d₂] =>
    [y₁, y₂, y₃, y₄, m₁, m₂, d₁, d₂].all fun c => (digit? c).isSome
  | _ => false

def checkDate (value : Str) : Except Str Unit :=
  if value ≠ [] ∧ matchesDate value = false then
    .error ("ERROR: Dates must use ISO YYYY-MM-DD format: ".toList ++ value)
  else .ok ()

def orderError : Str := "ERROR: --from must be on or before --to".toList

/-- The comparison is one of texts. -/
def checkOrder (options : Options) : Except Str Unit :=
  if options.fromText ≠ [] ∧ options.toText ≠ [] ∧ options.toText < options.fromText then
    .error orderError
  else .ok ()

/-- The payload that `jq` builds. An option that is not given has no member. -/
def Options.payload (options : Options) : Json :=
  .object ([("mode".toList, .string "backfill".toList)] ++
    (if options.fromText ≠ [] then [("from".toList, .string options.fromText)] else []) ++
    (if options.toText ≠ [] then [("to".toList, .string options.toText)] else []))

/-- The name of the function, as the outputs of the stack have it. -/
def resolveFunction (describeStacks : Str → Except Str Str) (stackName : Str) : Except Str Str := do
  let functionName ← describeStacks stackName
  if functionName = [] ∨ functionName = "None".toList then
    throw ("ERROR: Could not resolve IngestLambdaName from stack ".toList ++ stackName ++
      ". Has it been deployed?".toList)
  else return functionName

/-- The function that the script invokes, and the payload. -/
def backfill (describeStacks : Str → Except Str Str) (stackName : Str) (arguments : List Str) :
    Except Str (Str × Json) := do
  let options ← readOptions arguments {}
  checkDate options.fromText
  checkDate options.toText
  checkOrder options
  let functionName ← resolveFunction describeStacks stackName
  return (functionName, options.payload)

/-- An option that is not given, or that is a date. -/
inductive DateText : Str → Option DateOnly → Prop
  | absent : DateText [] none
  | date {text : Str} {date : DateOnly} (h : DateOnly.tryParseExact text = some date) :
      DateText text (some date)

/-- What the function reads of an option. One that is not given has no member. -/
def readOption (text : Str) : Except Exn (Option DateOnly) :=
  if text ≠ [] then BackfillRequest.readDate (.string text) else .ok none

section Payload

variable {options : Options} {text : Str} {date fromDate toDate : Option DateOnly}

theorem ne_nil_of_date {day : DateOnly} (h : DateOnly.tryParseExact text = some day) : text ≠ [] := by
  rintro rfl
  cases h

/-- How the function reads the payload: each member that is there must be a date. -/
theorem deserialize_payload (options : Options) :
    BackfillRequest.deserialize options.payload = do
      let fromDate ← readOption options.fromText
      let toDate ← readOption options.toText
      return some ⟨some BackfillRequest.modeValue, fromDate, toDate, none⟩ := by
  have hMode (request : BackfillRequest) : BackfillRequest.readMember request
      ("mode".toList, .string "backfill".toList) =
        .ok { request with mode := some BackfillRequest.modeValue } := rfl
  have hFrom (request : BackfillRequest) (text : Str) : BackfillRequest.readMember request
      ("from".toList, .string text) = (do
        return { request with fromDate := ← BackfillRequest.readDate (.string text) }) := rfl
  have hTo (request : BackfillRequest) (text : Str) : BackfillRequest.readMember request
      ("to".toList, .string text) = (do
        return { request with toDate := ← BackfillRequest.readDate (.string text) }) := rfl
  unfold Options.payload BackfillRequest.deserialize readOption
  split_ifs <;>
    simp only [List.append_nil, List.cons_append, List.nil_append, List.foldlM_cons,
      List.foldlM_nil, hMode, hFrom, hTo] <;>
    cases BackfillRequest.readDate (.string options.fromText) <;>
    cases BackfillRequest.readDate (.string options.toText) <;> rfl

theorem readOption_eq_ok_iff : readOption text = .ok date ↔ DateText text date := by
  unfold readOption
  constructor
  · intro h
    split_ifs at h with hGiven
    · unfold BackfillRequest.readDate at h
      dsimp only at h
      split at h
      · rename_i day hDay
        cases h
        exact .date hDay
      · cases h
    · cases h
      rw [ne_eq, not_not] at hGiven
      rw [hGiven]
      exact .absent
  · rintro (_ | hDay)
    · rfl
    · rw [if_pos (ne_nil_of_date hDay), BackfillRequest.readDate, hDay]

theorem deserialize_of_dates (hFrom : DateText options.fromText fromDate)
    (hTo : DateText options.toText toDate) :
    BackfillRequest.deserialize options.payload =
      .ok (some ⟨some BackfillRequest.modeValue, fromDate, toDate, none⟩) := by
  rw [deserialize_payload, readOption_eq_ok_iff.mpr hFrom, readOption_eq_ok_iff.mpr hTo]
  rfl

theorem deserialize_of_not_dates
    (h : ¬∃ fromDate toDate, DateText options.fromText fromDate ∧ DateText options.toText toDate) :
    ∃ error, BackfillRequest.deserialize options.payload = .error error := by
  rw [deserialize_payload]
  cases hFrom : readOption options.fromText with
  | error error => exact ⟨error, rfl⟩
  | ok fromDate =>
      cases hTo : readOption options.toText with
      | error error => exact ⟨error, rfl⟩
      | ok toDate =>
          exact absurd ⟨fromDate, toDate, readOption_eq_ok_iff.mp hFrom, readOption_eq_ok_iff.mp hTo⟩ h

theorem mode_of_payload (options : Options) : ∃ members, options.payload = .object members ∧
    tryGetProperty members "mode".toList = some (.string BackfillRequest.modeValue) := by
  refine ⟨_, rfl, ?_⟩
  split_ifs <;> rfl

/-- The order of the texts is that of the dates. -/
theorem reversed_iff (hFrom : DateText options.fromText fromDate)
    (hTo : DateText options.toText toDate) :
    (options.fromText ≠ [] ∧ options.toText ≠ [] ∧ options.toText < options.fromText) ↔
      BackfillRequest.reversed fromDate toDate = true := by
  rcases options with ⟨fromText, toText⟩
  dsimp only at hFrom hTo ⊢
  cases hFrom with
  | absent => simp [BackfillRequest.reversed]
  | @date _ first hFirst =>
      cases hTo with
      | absent => simp [BackfillRequest.reversed]
      | @date _ last hLast =>
          rw [DateOnly.lt_iff_of_tryParseExact hLast hFirst, BackfillRequest.reversed,
            decide_eq_true_iff, and_iff_right (ne_nil_of_date hFirst),
            and_iff_right (ne_nil_of_date hLast)]

theorem checkOrder_eq_ok_iff (hFrom : DateText options.fromText fromDate)
    (hTo : DateText options.toText toDate) :
    checkOrder options = .ok () ↔ BackfillRequest.reversed fromDate toDate = false := by
  unfold checkOrder
  simp only [reversed_iff hFrom hTo]
  split_ifs with hReversed <;> simp [hReversed]

/-- The pattern lets every date through. -/
theorem checkDate_of_dateText (h : DateText text date) : checkDate text = .ok () := by
  cases h with
  | absent => rfl
  | @date _ day hDay =>
      have hMatches : matchesDate text = true := by
        rw [← DateOnly.format_of_tryParseExact hDay]
        simp [matchesDate, DateOnly.format, digit?_digitChar, Nat.mod_lt]
      rw [checkDate, hMatches, if_neg (by simp)]

/-- The request that the function reads is valid unless its dates are reversed. -/
theorem requests_payload_iff (hFrom : DateText options.fromText fromDate)
    (hTo : DateText options.toText toDate) :
    Requests options.payload ⟨some BackfillRequest.modeValue, fromDate, toDate, none⟩ ↔
      checkOrder options = .ok () := by
  rw [checkOrder_eq_ok_iff hFrom hTo]
  constructor
  · exact fun h => h.notReversed
  · intro hOrder
    obtain ⟨members, hMembers, hMode⟩ := mode_of_payload options
    exact ⟨members, _, hMembers, hMode, deserialize_of_dates hFrom hTo,
      BackfillRequest.validate_continuation hOrder fun _ => nofun⟩

/-- A payload that cannot be read is refused, and nothing is done. -/
theorem refused_of_error (f : KiroIngest.Function) {error : Exn}
    (h : BackfillRequest.deserialize options.payload = .error error) (plan : FaultPlan) (calls : Nat)
    (w : World) :
    let run := f.handleAsync options.payload plan calls w
    run.outcome = .threw error ∧ Aside w run.state := by
  obtain ⟨members, hMembers, hMode⟩ := mode_of_payload options
  have hDispatch : f.dispatch options.payload = Async.throwing error := by
    rw [hMembers] at h ⊢
    unfold Function.dispatch
    simp only [hMode]
    unfold Function.handleModeRequestAsync
    simp only [h]
    rfl
  intro run
  unfold run Function.handleAsync
  rw [hDispatch]
  exact ⟨rfl, aside_logLine w _⟩

/-- A report whose key has this date is within the options, as texts. -/
def Options.Includes (options : Options) (day : DateOnly) : Prop :=
  ¬(options.fromText ≠ [] ∧ day.format < options.fromText) ∧
    ¬(options.toText ≠ [] ∧ options.toText < day.format)

theorem includes_iff (hFrom : DateText options.fromText fromDate) (hTo : DateText options.toText toDate)
    (day : DateOnly) : options.Includes day ↔ outsideBounds fromDate toDate day = false := by
  have hFirst : (options.fromText ≠ [] ∧ day.format < options.fromText) ↔
      fromDate.any (fun date => day < date) = true := by
    generalize options.fromText = text at hFrom ⊢
    cases hFrom with
    | absent => simp
    | @date _ first h =>
        rw [DateOnly.lt_iff_of_tryParseExact (DateOnly.tryParseExact_format day) h,
          and_iff_right (ne_nil_of_date h), Option.any_some, decide_eq_true_iff]
  have hLast : (options.toText ≠ [] ∧ options.toText < day.format) ↔
      toDate.any (fun date => date < day) = true := by
    generalize options.toText = text at hTo ⊢
    cases hTo with
    | absent => simp
    | @date _ last h =>
        rw [DateOnly.lt_iff_of_tryParseExact h (DateOnly.tryParseExact_format day),
          and_iff_right (ne_nil_of_date h), Option.any_some, decide_eq_true_iff]
  rw [Options.Includes, hFirst, hLast, outsideBounds, Bool.or_eq_false_iff, Bool.not_eq_true,
    Bool.not_eq_true]

/-- A key is selected by the text of its date. -/
theorem selects_iff (hFrom : DateText options.fromText fromDate) (hTo : DateText options.toText toDate)
    (key : Str) : IngestService.selects fromDate toDate key = true ↔
      endsWithIgnoreCase key ".csv".toList = true ∧
        ∃ day ∈ extractDateFromKey key, options.Includes day := by
  simp only [IngestService.selects, Bool.and_eq_true, Option.any_eq_true, Bool.not_eq_true',
    includes_iff hFrom hTo, Option.mem_def]

end Payload

section Run

variable {describeStacks : Str → Except Str Str} {stackName functionName : Str} {arguments : List Str}
  {options : Options} {payload : Json}

/-- What the script has checked when it submits a payload. -/
theorem backfill_eq_ok_iff : backfill describeStacks stackName arguments = .ok (functionName, payload) ↔
    ∃ options, readOptions arguments {} = .ok options ∧ checkDate options.fromText = .ok () ∧
      checkDate options.toText = .ok () ∧ checkOrder options = .ok () ∧
      resolveFunction describeStacks stackName = .ok functionName ∧ options.payload = payload := by
  simp only [backfill, Fallible.bind_eq_ok, Fallible.pure_eq_ok, Prod.mk.injEq]
  constructor
  · rintro ⟨options, hOptions, ⟨⟩, hFrom, ⟨⟩, hTo, ⟨⟩, hOrder, _, hResolved, rfl, rfl⟩
    exact ⟨options, hOptions, hFrom, hTo, hOrder, hResolved, rfl⟩
  · rintro ⟨options, hOptions, hFrom, hTo, hOrder, hResolved, rfl⟩
    exact ⟨options, hOptions, (), hFrom, (), hTo, (), hOrder, _, hResolved, rfl, rfl⟩

end Run

/-- The script and the function agree. For options that are dates or not given, the script
submits their payload just if the function accepts it, and the function then selects the
reports whose dates are, as texts, within the options. If one of them is not a date of the
calendar, the function refuses the payload and changes nothing. -/
theorem script_agrees {describeStacks : Str → Except Str Str} {stackName functionName : Str}
    {arguments : List Str} {options : Options} (hOptions : readOptions arguments {} = .ok options)
    (hResolved : resolveFunction describeStacks stackName = .ok functionName) :
    (∀ fromDate toDate, DateText options.fromText fromDate → DateText options.toText toDate →
      (backfill describeStacks stackName arguments = .ok (functionName, options.payload) ↔
        Requests options.payload ⟨some BackfillRequest.modeValue, fromDate, toDate, none⟩) ∧
      ∀ key, IngestService.selects fromDate toDate key = true ↔
        endsWithIgnoreCase key ".csv".toList = true ∧
          ∃ day ∈ extractDateFromKey key, options.Includes day) ∧
    ((¬∃ fromDate toDate, DateText options.fromText fromDate ∧ DateText options.toText toDate) →
      ∃ error, ∀ (f : KiroIngest.Function) plan calls w,
        let run := f.handleAsync options.payload plan calls w
        run.outcome = .threw error ∧ Aside w run.state) := by
  refine ⟨fun fromDate toDate hFrom hTo => ⟨?_, selects_iff hFrom hTo⟩, fun hNot => ?_⟩
  · rw [backfill_eq_ok_iff, requests_payload_iff hFrom hTo]
    constructor
    · rintro ⟨other, hOther, _, _, hOrder, _, _⟩
      cases hOptions.symm.trans hOther
      exact hOrder
    · intro hOrder
      exact ⟨options, hOptions, checkDate_of_dateText hFrom, checkDate_of_dateText hTo, hOrder,
        hResolved, rfl⟩
  · obtain ⟨error, hError⟩ := deserialize_of_not_dates hNot
    exact ⟨error, fun f plan calls w => refused_of_error f hError plan calls w⟩

/-- From the command line to the tables. The script was run with dates, its payload and
all that followed from it have been handled, and the dead letter queue is empty. Then the
fact objects of every report whose date is, as a text, within the options are those that
the report stands for, if none of these reports is published under a name of another. -/
theorem script_rebuilds {describeStacks : Str → Except Str Str} {stackName functionName : Str}
    {arguments : List Str} {options : Options} {payload : Json} {fromDate toDate : Option DateOnly}
    {f : KiroIngest.Function} {listing : Listing Str Str} {start w : World}
    (hOptions : readOptions arguments {} = .ok options) (hFrom : DateText options.fromText fromDate)
    (hTo : DateText options.toText toDate)
    (hScript : backfill describeStacks stackName arguments = .ok (functionName, payload))
    (hListing : RawListing start.rawListing listing) (hInvocations : start.invocations = [])
    (hApart : Apart (f.ingest.selected fromDate toDate listing.objects))
    (hRuns : (rebuildingHandling f start).LimitedRuns payload (1 + maximumRetryAttempts) w [] []) :
    ∀ key ∈ listing.objects, endsWithIgnoreCase key ".csv".toList = true →
      ∀ day ∈ extractDateFromKey key, options.Includes day →
        ∀ source, IngestSource.create f.ingest.rawBucket key none none = .ok source →
          f.ingest.Rebuilt start w source := by
  obtain ⟨other, hOther, _, _, hOrder, _, rfl⟩ := backfill_eq_ok_iff.mp hScript
  cases hOptions.symm.trans hOther
  have hRoot := (requests_payload_iff hFrom hTo).mpr hOrder
  intro key hKey hCsv day hDay hIncludes source hMade
  have hSource : source ∈ f.ingest.selected fromDate toDate listing.objects :=
    IngestService.mem_selected.mpr
      ⟨key, hKey, (selects_iff hFrom hTo key).mpr ⟨hCsv, day, hDay, hIncludes⟩, hMade⟩
  exact (rebuilt_or_unsettled hRoot hListing hInvocations hRuns hApart hSource).resolve_right
    fun ⟨_, hNone, _⟩ => nomatch hNone

section Example

/-- The backfill of two days. -/
def exampleArguments : List Str :=
  ["--from".toList, "2026-06-20".toList, "--to".toList, "2026-06-21".toList]

def exampleOptions : Options := ⟨"2026-06-20".toList, "2026-06-21".toList⟩

def exampleStacks (_ : Str) : Except Str Str := .ok "kiro-ingest-1".toList

theorem exampleArguments_read : readOptions exampleArguments {} = .ok exampleOptions := rfl

theorem exampleFrom_date : DateText exampleOptions.fromText (some exampleDate) := .date (by decide)

theorem exampleTo_date : DateText exampleOptions.toText (some exampleNextDate) := .date (by decide)

theorem exampleStacks_resolves :
    resolveFunction exampleStacks "KiroInfraStack".toList = .ok "kiro-ingest-1".toList := rfl

theorem script_agrees_example :
    backfill exampleStacks "KiroInfraStack".toList exampleArguments =
        .ok ("kiro-ingest-1".toList, exampleOptions.payload) ↔
      Requests exampleOptions.payload
        ⟨some BackfillRequest.modeValue, some exampleDate, some exampleNextDate, none⟩ :=
  ((script_agrees exampleArguments_read exampleStacks_resolves).1 _ _ exampleFrom_date
    exampleTo_date).1

theorem exampleOptions_requests : Requests exampleOptions.payload
    ⟨some BackfillRequest.modeValue, some exampleDate, some exampleNextDate, none⟩ :=
  (requests_payload_iff exampleFrom_date exampleTo_date).mpr rfl

theorem exampleOptions_returned : (exampleFunction.handleAsync exampleOptions.payload Plan.healthy 0
    { exampleNamesakes with paging := Paging.single }).outcome = .returned () :=
  Outcome.eq_returned (by decide +kernel)

/-- The payload of the example is handled by one invocation, and nothing is left. -/
theorem exampleOptions_runs : (rebuildingHandling exampleFunction exampleNamesakes).LimitedRuns
    exampleOptions.payload (1 + maximumRetryAttempts)
      (exampleNamesakes.invoked exampleOptions.payload) [] [] := by
  let h := rebuildingHandling exampleFunction exampleNamesakes
  have hStart : h.LimitedRuns exampleOptions.payload (1 + maximumRetryAttempts) exampleNamesakes
      ([] ++ (exampleOptions.payload, 0) :: []) [] := .start rfl
  have hRuns := hStart.acknowledge (⟨Plan.healthy, Paging.single, exampleOptions_returned, rfl⟩ :
    h.acknowledged exampleNamesakes exampleOptions.payload
      (exampleNamesakes.invoked exampleOptions.payload))
  obtain ⟨_, hSent⟩ := invoked_page exampleOptions_requests
    (exampleNamesakes_listing.linked none .first) (by rw [exampleOptions_returned]; nofun)
  have hNewly : h.newly exampleNamesakes (exampleNamesakes.invoked exampleOptions.payload) = [] := by
    unfold Handling.newly
    rw [show h.sent = World.invocations from rfl, hSent]
    rfl
  rw [hNewly] at hRuns
  exact hRuns

/-- The reports of both days are rebuilt, although they share their base name. -/
theorem script_rebuilds_example :
    ["20".toList, "21".toList].Forall fun day => ∃ source,
      IngestSource.create exampleService.rawBucket (exampleReportKey day) none none = .ok source ∧
      exampleService.Rebuilt exampleNamesakes (exampleNamesakes.invoked exampleOptions.payload)
        source := by
  have hScript : backfill exampleStacks "KiroInfraStack".toList exampleArguments =
      .ok ("kiro-ingest-1".toList, exampleOptions.payload) := rfl
  have hRebuilt {day : Str} (hListed : exampleReportKey day ∈ exampleKeys)
      (hSelects : IngestService.selects (some exampleDate) (some exampleNextDate)
        (exampleReportKey day) = true) : ∃ source,
      IngestSource.create exampleService.rawBucket (exampleReportKey day) none none = .ok source ∧
        exampleService.Rebuilt exampleNamesakes (exampleNamesakes.invoked exampleOptions.payload)
          source := by
    obtain ⟨source, hMade⟩ := exampleService.create_of_selects _ _ hSelects
    obtain ⟨hCsv, date, hDate, hIncludes⟩ := (selects_iff exampleFrom_date exampleTo_date _).mp hSelects
    exact ⟨source, hMade, script_rebuilds exampleArguments_read exampleFrom_date exampleTo_date
      hScript exampleNamesakes_listing rfl exampleNamesakes_apart exampleOptions_runs _ hListed hCsv
      date hDate hIncludes source hMade⟩
  exact ⟨hRebuilt List.mem_cons_self (by decide),
    hRebuilt (List.mem_cons_of_mem _ List.mem_cons_self) (by decide)⟩

end Example

end KiroScripts
