import KiroUsage.Ingest.Coverage
import KiroUsage.Semantics.Ledger

/-! What the log of the function says of its runs. The history, which no program
reads, tells which runs of `ProcessCsvAsync` have begun; the log tells what an operator
sees of them, and what it reports as complete is compared with the bucket. -/
namespace KiroIngest

open Text Storage Execution

/-- The run that a line reports as ended. -/
def LogEvent.ended : LogEvent → Option IngestSource
  | ingestSkippedStale source => some source
  | ingestComplete source .. => some source
  | ingestError source _ => some source
  | _ => none

/-- What `ingest_complete` reports. -/
structure Completion where
  source : IngestSource
  rowsRead : Nat
  rowsKept : Nat
  usageDailyRows : Nat
  modelMessagesRows : Nat
  partitions : Nat

def LogEvent.completion : LogEvent → Option Completion
  | ingestComplete source rowsRead rowsKept usageDailyRows modelMessagesRows partitions =>
    some ⟨source, rowsRead, rowsKept, usageDailyRows, modelMessagesRows, partitions⟩
  | _ => none

/-- A line that an object has failed. -/
def LogEvent.isFailure : LogEvent → Bool
  | ingestError .. | backfillInvalidKey .. => true
  | _ => false

/-- The lines that `LogError` writes. -/
def LogEvent.isError : LogEvent → Bool
  | ingestCleanupError .. | ingestError .. | backfillInvalidKey .. | invocationError _ => true
  | _ => false

def LogEvent.thrown : LogEvent → Option Exn
  | invocationError error => some error
  | _ => none

/-- What `backfill_page_complete` reports. -/
structure PageReport where
  objectsProcessed : Nat
  objectsFailed : Nat
  continuationScheduled : Bool

def LogEvent.page : LogEvent → Option PageReport
  | backfillPageComplete processed failed scheduled => some ⟨processed, failed, scheduled⟩
  | _ => none

def HistoryEvent.begun : HistoryEvent → Option IngestSource
  | processing source => some source
  | published _ => none

/-- What has happened, by the history and the queue, and what the log says. -/
@[ext] structure Account where
  begun : List IngestSource
  payloads : List Json
  ended : List IngestSource
  completed : List Completion
  failures : Nat
  errors : Nat
  thrown : List Exn
  pages : List PageReport

def World.account (w : World) : Account where
  begun := w.history.filterMap HistoryEvent.begun
  payloads := w.invocations
  ended := w.log.filterMap LogEvent.ended
  completed := w.log.filterMap LogEvent.completion
  failures := w.log.countP LogEvent.isFailure
  errors := w.log.countP LogEvent.isError
  thrown := w.log.filterMap LogEvent.thrown
  pages := w.log.filterMap LogEvent.page

namespace Account

variable {a b : Account}

/-- One account after the other. -/
instance : Mul Account where
  mul a b :=
    { begun := a.begun ++ b.begun
      payloads := a.payloads ++ b.payloads
      ended := a.ended ++ b.ended
      completed := a.completed ++ b.completed
      failures := a.failures + b.failures
      errors := a.errors + b.errors
      thrown := a.thrown ++ b.thrown
      pages := a.pages ++ b.pages }

instance : One Account where
  one := ⟨[], [], [], [], 0, 0, [], []⟩

section Fields

@[simp] theorem mul_begun : (a * b).begun = a.begun ++ b.begun := rfl
@[simp] theorem mul_payloads : (a * b).payloads = a.payloads ++ b.payloads := rfl
@[simp] theorem mul_ended : (a * b).ended = a.ended ++ b.ended := rfl
@[simp] theorem mul_failures : (a * b).failures = a.failures + b.failures := rfl
@[simp] theorem mul_errors : (a * b).errors = a.errors + b.errors := rfl
@[simp] theorem mul_thrown : (a * b).thrown = a.thrown ++ b.thrown := rfl
@[simp] theorem mul_pages : (a * b).pages = a.pages ++ b.pages := rfl

end Fields

instance : Monoid Account where
  mul_assoc a b c := Account.ext (List.append_assoc ..) (List.append_assoc ..) (List.append_assoc ..)
    (List.append_assoc ..) (Nat.add_assoc ..) (Nat.add_assoc ..) (List.append_assoc ..)
    (List.append_assoc ..)
  one_mul a := Account.ext rfl rfl rfl rfl (Nat.zero_add _) (Nat.zero_add _) rfl rfl
  mul_one a := Account.ext (List.append_nil _) (List.append_nil _) (List.append_nil _)
    (List.append_nil _) rfl rfl (List.append_nil _) (List.append_nil _)

/-- What one line says. -/
def ofLine (line : LogEvent) : Account where
  begun := []
  payloads := []
  ended := line.ended.toList
  completed := line.completion.toList
  failures := if line.isFailure then 1 else 0
  errors := if line.isError then 1 else 0
  thrown := line.thrown.toList
  pages := line.page.toList

/-- What one event is. -/
def ofEvent (event : HistoryEvent) : Account := { (1 : Account) with begun := event.begun.toList }

def ofPayload (payload : Json) : Account := { (1 : Account) with payloads := [payload] }

end Account

namespace Account

variable {a b : Account} {processed failed processed' failed' cut cut' : Nat}

/-- The log is true to the history, but for runs that were cut off: the lines name
the runs that have begun, in their order. An object that failed and an error that
escaped have error lines. -/
structure Fair (a : Account) (cut : Nat) : Prop where
  ended : a.ended.Sublist a.begun
  missing : a.begun.length ≤ a.ended.length + cut
  failures : a.failures ≤ a.errors
  thrown : a.thrown.length ≤ a.errors

theorem fair_one : Fair 1 0 := ⟨.refl [], le_refl 0, le_refl 0, le_refl 0⟩

theorem Fair.mul (ha : a.Fair cut) (hb : b.Fair cut') : (a * b).Fair (cut + cut') where
  ended := ha.ended.append hb.ended
  missing := by
    have hFirst := ha.missing
    have hSecond := hb.missing
    simp only [mul_begun, mul_ended, List.length_append]
    omega
  failures := Nat.add_le_add ha.failures hb.failures
  thrown := by
    have hFirst := ha.thrown
    have hSecond := hb.thrown
    simp only [mul_thrown, mul_errors, List.length_append]
    omega

/-- If no run was cut off, the lines name all of them. -/
theorem Fair.ended_eq (h : a.Fair 0) : a.ended = a.begun := h.ended.eq_of_length_le h.missing

/-- What the turns of a loop over objects come to: so many of them processed, and so
many of them failed. -/
structure Turns (a : Account) (processed failed : Nat) : Prop extends a.Fair 0 where
  begun_length : a.begun.length = processed
  failures_eq : a.failures = failed
  clean : failed = 0 → a.errors = 0
  escaped : a.thrown = []
  payloads : a.payloads = []
  pages : a.pages = []

theorem turns_one : Turns 1 0 0 := ⟨fair_one, rfl, rfl, fun _ => rfl, rfl, rfl, rfl⟩

theorem Turns.mul (ha : a.Turns processed failed) (hb : b.Turns processed' failed') :
    (a * b).Turns (processed + processed') (failed + failed') where
  toFair := ha.toFair.mul hb.toFair
  begun_length := by rw [mul_begun, List.length_append, ha.begun_length, hb.begun_length]
  failures_eq := by rw [mul_failures, ha.failures_eq, hb.failures_eq]
  clean := by
    intro h
    rw [mul_errors, ha.clean (by omega), hb.clean (by omega)]
  escaped := by rw [mul_thrown, ha.escaped, hb.escaped, List.append_nil]
  payloads := by rw [mul_payloads, ha.payloads, hb.payloads, List.append_nil]
  pages := by rw [mul_pages, ha.pages, hb.pages, List.append_nil]

/-- Where the function may be stopped: one run at most has no end. -/
structure CutOff (a : Account) : Prop extends a.Fair 1 where
  escaped : a.thrown = []
  pages : a.pages = []

theorem Turns.cutOff (ha : a.Turns processed failed) : a.CutOff :=
  ⟨⟨ha.ended, Nat.le_succ_of_le ha.missing, ha.failures, ha.thrown⟩, ha.escaped, ha.pages⟩

theorem Turns.mul_cutOff (ha : a.Turns processed failed) (hb : b.CutOff) : (a * b).CutOff where
  toFair := Nat.zero_add 1 ▸ ha.toFair.mul hb.toFair
  escaped := by rw [mul_thrown, ha.escaped, hb.escaped, List.append_nil]
  pages := by rw [mul_pages, ha.pages, hb.pages, List.append_nil]

end Account

section Lines

theorem filterMap_concat {α β : Type} (f : α → Option β) (items : List α) (item : α) :
    (items ++ [item]).filterMap f = items.filterMap f ++ (f item).toList := by
  rw [List.filterMap_append]
  cases h : f item with
  | none => simp [h]
  | some value => simp [h]

theorem account_logLine (w : World) (line : LogEvent) :
    { w with log := w.log ++ [line] }.account = w.account * Account.ofLine line :=
  Account.ext (List.append_nil _).symm (List.append_nil _).symm (filterMap_concat ..)
    (filterMap_concat ..)
    (by simp [World.account, Account.ofLine, List.countP_append, List.countP_singleton])
    (by simp [World.account, Account.ofLine, List.countP_append, List.countP_singleton])
    (filterMap_concat ..) (filterMap_concat ..)

theorem account_record (w : World) (event : HistoryEvent) :
    { w with history := w.history ++ [event] }.account = w.account * Account.ofEvent event :=
  Account.ext (filterMap_concat ..) (List.append_nil _).symm (List.append_nil _).symm
    (List.append_nil _).symm rfl rfl (List.append_nil _).symm (List.append_nil _).symm

theorem account_invoke (w : World) (payload : Json) :
    { w with invocations := w.invocations ++ [payload] }.account =
      w.account * Account.ofPayload payload :=
  Account.ext (List.append_nil _).symm rfl (List.append_nil _).symm (List.append_nil _).symm rfl rfl
    (List.append_nil _).symm (List.append_nil _).symm

variable {plan : FaultPlan} {post : Post Account Exn Unit}

theorem logLine_books (line : LogEvent) (h : post.returned () (Account.ofLine line)) :
    Books plan World.account (logLine line) post :=
  Books.modify _ (fun w => account_logLine w line) h

theorem record_books (event : HistoryEvent) (h : post.returned () (Account.ofEvent event)) :
    Books plan World.account (record event) post :=
  Books.modify _ (fun w => account_record w event) h

end Lines

section Silent

variable {s : IngestService} {plan : FaultPlan} {booked : Account}

/-- A program that leaves the account as it is. -/
abbrev Unlogged {α : Type} (plan : FaultPlan) (booked : Account) (program : Ingest α) : Prop :=
  Keeps plan (fun w => World.account w = booked) program

theorem awsQuery_unlogged {α : Type} (request : AwsCall) (answer : World → Except Exn α) :
    Unlogged plan booked (awsQuery request answer) :=
  Keeps.call fun _ h => h

theorem putObject_unlogged (key : Str) (body : ObjectBody) : Unlogged plan booked (putObject key body) :=
  Keeps.call fun _ h => h

theorem deleteOutputAsync_unlogged (key : Str) : Unlogged plan booked (deleteOutputAsync key) :=
  Keeps.call fun _ h => h

theorem isStaleEventAsync_unlogged (source : IngestSource) :
    Unlogged plan booked (isStaleEventAsync source) := by
  unfold isStaleEventAsync
  cases source.sequencer with
  | none => exact .done _
  | some sequencer =>
      apply Keeps.bind
      · apply Keeps.catching (awsQuery_unlogged _ _)
        intro error
        split_ifs
        · exact .done _
        · exact .throwing _
      · exact fun _ => .ofExcept _

/-- A warning is not counted. -/
theorem warnOnKeyDateMismatch_unlogged (source : IngestSource) (result : TransformResult) :
    Unlogged plan booked (warnOnKeyDateMismatch source result) := by
  unfold warnOnKeyDateMismatch
  cases extractDateFromKey source.key with
  | none => exact .done _
  | some keyDate =>
      dsimp only
      split_ifs
      · apply Keeps.modify
        intro w h
        rw [account_logLine, h]
        exact mul_one booked
      · exact .done _

theorem prepareAsync_unlogged (source : IngestSource) :
    Unlogged plan booked (s.prepareAsync source) := by
  apply Keeps.bind (awsQuery_unlogged _ _)
  intro csv
  apply Keeps.bind (awsQuery_unlogged _ _)
  intro targetList
  apply Keeps.bind (.ofExcept _)
  intro result
  exact (warnOnKeyDateMismatch_unlogged source result).bind fun _ => .done _

theorem listMatches_unlogged (source : IngestSource) (keyPrefix : Str) (listing : Listing Str Str)
    (token : Option Str) (found : List Str) :
    Unlogged plan booked (listMatches source keyPrefix listing token found) := by
  induction listing generalizing token found with
  | last page =>
      apply Keeps.bind (awsQuery_unlogged _ _)
      intro response
      exact (Keeps.ofExcept _).bind fun _ => .done _
  | more page next rest ih =>
      apply Keeps.bind (awsQuery_unlogged _ _)
      intro response
      exact (Keeps.ofExcept _).bind fun _ => ih _ _

theorem findExistingOutputKeysAsync_unlogged (source : IngestSource) :
    Unlogged plan booked (findExistingOutputKeysAsync source) := by
  apply Keeps.bind (.inspect _)
  intro usageListing
  apply (listMatches_unlogged source _ usageListing none []).bind
  intro found
  apply Keeps.bind (.inspect _)
  intro modelListing
  exact (listMatches_unlogged source _ modelListing none found).bind fun _ => .done _

theorem assign_unlogged (update : Bookkeeping → Bookkeeping) (booked : Account) :
    Keeps plan (fun st => World.account st.1 = booked)
      (Async.assign update : Publishing Unit) :=
  Keeps.assign fun _ _ h => h

theorem publishOutputs_unlogged (outputs : List (Str × ObjectBody)) (existing : List Str) :
    Keeps plan (fun st => World.account st.1 = booked) (publishOutputs outputs existing) := by
  apply Keeps.bind
  · apply Keeps.forEach
    intro output
    apply Keeps.bind (assign_unlogged _ booked)
    exact fun _ => (putObject_unlogged output.1 output.2).lift
  · exact fun _ => Keeps.forEach fun key => (deleteOutputAsync_unlogged key).lift

theorem saveLiveSequencer_unlogged (source : IngestSource) :
    Unlogged plan booked (saveLiveSequencer source) := by
  unfold saveLiveSequencer
  cases source.sequencer with
  | none => exact .done _
  | some sequencer => exact putObject_unlogged _ _

end Silent

section Runs

variable {s : IngestService} {plan : FaultPlan}

/-- The line for a result. -/
def Completion.ofResult (source : IngestSource) (result : TransformResult) : Completion where
  source := source
  rowsRead := result.rowsRead
  rowsKept := result.rowsKept
  usageDailyRows := (result.partitions.map (·.usageDaily.length)).sum
  modelMessagesRows := (result.partitions.map (·.modelMessages.length)).sum
  partitions := result.partitions.length

/-- What a run adds that ends without an error. -/
def Account.ofRun (source : IngestSource) (completed : List Completion) : Account :=
  { (1 : Account) with begun := [source], ended := [source], completed }

/-- What the `try` block adds to publish a result. -/
def Account.publishing (source : IngestSource) (result : TransformResult) : Post Account Exn Unit where
  returned _ a := a = { (1 : Account) with ended := [source], completed := [.ofResult source result] }
  threw _ a := a = 1
  killed a := a = 1

theorem finishAsync_books (source : IngestSource) (result : TransformResult) :
    Books plan World.account (finishAsync source result) (Account.publishing source result) := by
  apply Books.bind fun _ a => a = 1
  · exact record_books _ rfl
  · rintro _ _ rfl
    apply Books.silent_bind (fun _ => saveLiveSequencer_unlogged source) (fun _ => rfl) rfl
    exact fun _ => logLine_books _ rfl

theorem publishAsync_books (source : IngestSource) (result : TransformResult)
    (outputs : List (Str × ObjectBody)) (existing : List Str) :
    Books plan (fun st => World.account st.1)
      (IngestService.publishAsync source result outputs existing)
      (Account.publishing source result) := by
  apply Books.silent_bind (fun _ => publishOutputs_unlogged _ _) (fun _ => rfl) rfl
  intro _
  apply Books.silent_bind (assign_unlogged _) (fun _ => rfl) rfl
  exact fun _ => (finishAsync_books source result).lift

/-- Nothing is booked that counts. -/
abbrev Unbooked (start w : World) : Prop := Booked World.account start (· = 1) w

theorem unbooked_of_eq {start w : World} (h : w.account = start.account) : Unbooked start w :=
  ⟨1, by rw [h, mul_one], rfl⟩

/-- In a `try` block that has added nothing so far, what is added is added to the
account of its start. -/
theorem books_since {α : Type} {program : Publishing α} {post : Post Account Exn α} {start : World}
    {st : World × Bookkeeping} (h : Books plan (fun st => World.account st.1) program post)
    (hAccount : st.1.account = start.account) :
    Triple plan (· = st) program
      ⟨fun value st' => Booked World.account start (post.returned value) st'.1,
        fun error st' => Booked World.account start (post.threw error) st'.1,
        fun st' => Booked World.account start post.killed st'.1⟩ := by
  have hSince {entries : Account → Prop} {st' : World × Bookkeeping}
      (hEnd : Booked (fun st : World × Bookkeeping => World.account st.1) st entries st') :
      Booked World.account start entries st'.1 := by
    obtain ⟨added, hBooked, hAdded⟩ := hEnd
    have hView : st'.1.account = st.1.account * added := hBooked
    exact ⟨added, by rw [hView, hAccount], hAdded⟩
  exact (h st).consequence (fun _ hs => hs) (fun _ _ => hSince) (fun _ _ => hSince) fun _ => hSince

/-- Nothing is changed but by warnings. -/
def Unsaid (start w : World) : Prop := Quiet start w ∧ w.account = start.account

/-- What is read in a `try` block, with the account as it was. -/
theorem Reads.unlogged {α : Type} {start : World} {program : Ingest α} {answer : Except Exn α}
    (h : Reads plan start program answer) (hUnlogged : Unlogged plan start.account program) :
    Triple plan (fun st : World × Bookkeeping => Unsaid start st.1 ∧ st.2 = {}) (Async.lift program)
      ⟨fun value st => answer = .ok value ∧ Unsaid start st.1 ∧ st.2 = {},
        fun _ st => Unbooked start st.1, fun st => Unbooked start st.1⟩ := by
  apply Triple.lift ({} : Bookkeeping)
  apply (Triple.both h hUnlogged).consequence (fun _ hs => hs)
  · exact fun value w hs => ⟨hs.1.1, ⟨hs.1.2, hs.2⟩, rfl⟩
  · exact fun _ w hs => unbooked_of_eq hs.2
  · exact fun w hs => unbooked_of_eq hs.2

/-- What the `try` block adds when it returns. -/
def IngestService.Ends (s : IngestService) (source : IngestSource) (before : World) (a : Account) :
    Prop :=
  (before.staleEvent source = .ok true ∧ a = { (1 : Account) with ended := [source] }) ∨
    ∃ result, before.staleEvent source = .ok false ∧ s.transformed source before = .ok result ∧
      a = { (1 : Account) with ended := [source], completed := [.ofResult source result] }

variable {before : World} {source : IngestSource}

theorem reconcileResult_books (result : TransformResult) (outputs : List (Str × ObjectBody)) :
    Books plan (fun st => World.account st.1)
      (Async.lift (findExistingOutputKeysAsync source) >>= fun existing =>
        Async.assign (fun vars : Bookkeeping => { vars with existingOutputKeys := existing }) >>=
          fun _ => IngestService.publishAsync source result outputs existing)
      (Account.publishing source result) := by
  apply Books.silent_bind (fun _ => (findExistingOutputKeysAsync_unlogged source).lift) (fun _ => rfl)
    rfl
  intro existing
  apply Books.silent_bind (assign_unlogged _) (fun _ => rfl) rfl
  exact fun _ => publishAsync_books source result outputs existing

theorem reconcileAsync_ends (hStale : before.staleEvent source = .ok false) :
    let start := before.recordProcessing source
    Triple plan
      (fun st : World × Bookkeeping => Unsaid start st.1 ∧ st.2 = {})
      (s.reconcileAsync source)
      ⟨fun _ st => Booked World.account start (s.Ends source before) st.1,
        fun _ st => Unbooked start st.1, fun st => Unbooked start st.1⟩ := by
  intro start
  have hPrepare : Reads plan start (s.prepareAsync source)
      ((s.transformed source before).map fun result => (result, prepareOutputs source result)) :=
    prepareAsync_reads s source
  apply Triple.bind _ (hPrepare.unlogged (prepareAsync_unlogged source))
  rintro ⟨result, outputs⟩
  apply Triple.assuming (fun _ hs => hs.1)
  intro hOk
  have hResult : s.transformed source before = .ok result := by
    cases hResult : s.transformed source before with
    | error cause => rw [hResult] at hOk; cases hOk
    | ok result' => rw [hResult] at hOk; cases hOk; rfl
  apply Triple.pointwise
  rintro st ⟨_, ⟨_, hAccount⟩, _⟩
  apply (books_since (reconcileResult_books result outputs) hAccount).consequence (fun _ hs => hs)
  · intro _ st' hEnd
    exact hEnd.mono fun _ hAdded => Or.inr ⟨result, hStale, hResult, hAdded⟩
  · exact fun _ _ hEnd => hEnd
  · exact fun _ hEnd => hEnd

theorem tryProcessCsv_ends :
    let start := before.recordProcessing source
    Triple plan (fun st : World × Bookkeeping => st.1 = start ∧ st.2 = {}) (s.tryProcessCsv source)
      ⟨fun _ st => Booked World.account start (s.Ends source before) st.1,
        fun _ st => Unbooked start st.1, fun st => Unbooked start st.1⟩ := by
  intro start
  have hReads : Reads plan start (isStaleEventAsync source) (before.staleEvent source) :=
    isStaleEventAsync_reads source
  have hStart : ∀ st : World × Bookkeeping, st.1 = start ∧ st.2 = {} →
      Unsaid start st.1 ∧ st.2 = {} := by
    rintro ⟨w, _⟩ ⟨rfl, rfl⟩
    exact ⟨⟨Quiet.refl _, rfl⟩, rfl⟩
  apply Triple.bind _ ((hReads.unlogged (isStaleEventAsync_unlogged source)).strengthen hStart)
  intro stale
  apply Triple.assuming (fun _ hs => hs.1)
  intro hStale
  cases stale with
  | true =>
      have hLine : Books plan World.account (logLine (.ingestSkippedStale source))
          ⟨fun _ a => a = { (1 : Account) with ended := [source] }, fun _ a => a = 1, fun a => a = 1⟩ :=
        logLine_books _ rfl
      apply Triple.pointwise
      rintro st ⟨_, ⟨_, hAccount⟩, _⟩
      apply (books_since hLine.lift hAccount).consequence (fun _ hs => hs)
      · intro _ st' hEnd
        exact hEnd.mono fun _ hAdded => Or.inl ⟨hStale, hAdded⟩
      · exact fun _ _ hEnd => hEnd
      · exact fun _ hEnd => hEnd
  | false => exact (reconcileAsync_ends hStale).strengthen fun _ hs => hs.2

/-- Nothing but error lines of the clean-up. -/
def Account.cleanup : Submonoid Account where
  carrier := {a | ∃ errors, a = { (1 : Account) with errors }}
  one_mem' := ⟨0, rfl⟩
  mul_mem' := by
    rintro _ _ ⟨errors, rfl⟩ ⟨more, rfl⟩
    exact ⟨errors + more, rfl⟩

theorem removeUnlessComplete_books (source : IngestSource) (vars : Bookkeeping) :
    Books plan World.account (removeUnlessComplete source vars)
      ⟨fun _ a => a ∈ Account.cleanup, fun _ _ => False, fun a => a ∈ Account.cleanup⟩ := by
  unfold removeUnlessComplete
  split_ifs
  · apply Books.forEach Account.cleanup
    · intro key booked hBooked
      apply Books.bind fun _ a => a = 1
      · apply Books.attempt
        exact Books.silent (fun _ => deleteOutputAsync_unlogged key) (fun _ => rfl) (fun _ => rfl)
          (mul_mem hBooked (one_mem _))
      · rintro failure _ rfl
        cases failure with
        | none => exact Books.done () (one_mem _)
        | some cleanupError => exact logLine_books _ ⟨1, rfl⟩
    · exact fun _ h => h
  · exact Books.done () (one_mem _)

theorem failClosed_books (source : IngestSource) (vars : Bookkeeping) (error : Exn) :
    Books plan World.account (failClosed source vars error)
      ⟨fun _ _ => False,
        fun _ a => ∃ errors,
          a = { (1 : Account) with ended := [source], failures := 1, errors := errors + 1 },
        fun a => a ∈ Account.cleanup⟩ := by
  apply Books.bind fun _ a => a ∈ Account.cleanup
  · exact (removeUnlessComplete_books source vars).weaken (fun _ _ h => h) (fun _ _ h => h.elim)
      fun _ h => h
  · rintro _ _ ⟨errors, rfl⟩
    apply Books.bind fun _ a => a = Account.ofLine (.ingestError source error)
    · exact logLine_books _ rfl
    · rintro _ _ rfl
      exact Books.throwing error ⟨errors, rfl⟩

/-- What a run adds. It is reported as complete if it returns for an event that is not
stale, and with the counts of its result. -/
theorem processCsvAsync_ends (s : IngestService) (source : IngestSource) (before : World) :
    Triple plan (· = before) (s.processCsvAsync source)
      ⟨fun _ => Booked World.account before fun a =>
          (before.staleEvent source = .ok true ∧ a = .ofRun source []) ∨
            ∃ result, before.staleEvent source = .ok false ∧
              s.transformed source before = .ok result ∧ a = .ofRun source [.ofResult source result],
        fun _ => Booked World.account before fun a => ∃ errors, a =
          { (1 : Account) with
            begun := [source], ended := [source], failures := 1, errors := errors + 1 },
        Booked World.account before fun a => ∃ errors,
          a = { (1 : Account) with begun := [source], errors }⟩ := by
  let start := before.recordProcessing source
  have hStart : start.account = before.account * Account.ofEvent (.processing source) :=
    account_record before _
  apply Triple.bind (fun _ w => w = start) (Triple.modify _ fun w hEq => by rw [hEq]; rfl)
  intro _
  apply Triple.catchingWith (fun _ _ => Unbooked start)
  · refine tryProcessCsv_ends.consequence (fun _ hs => hs) ?_ (fun _ _ hs => hs) ?_
    · rintro _ st ⟨a, hBooked, hEnds⟩
      refine ⟨_, hBooked.trans (by rw [hStart, mul_assoc]), ?_⟩
      rcases hEnds with ⟨hStale, rfl⟩ | ⟨result, hStale, hResult, rfl⟩
      · exact Or.inl ⟨hStale, rfl⟩
      · exact Or.inr ⟨result, hStale, hResult, rfl⟩
    · rintro st ⟨_, hBooked, rfl⟩
      exact ⟨_, hBooked.trans (by rw [hStart, mul_assoc]; rfl), 0, rfl⟩
  · intro vars error
    apply Triple.pointwise
    rintro w ⟨_, hBooked, rfl⟩
    have hAccount : w.account = before.account * Account.ofEvent (.processing source) := by
      rw [hBooked, hStart, mul_one]
    refine (failClosed_books source vars error w).consequence (fun _ hs => hs) ?_ ?_ ?_
    · rintro _ after ⟨_, _, hNever⟩
      exact hNever.elim
    · rintro _ after ⟨_, hAdded, errors, rfl⟩
      exact ⟨_, hAdded.trans (by rw [hAccount, mul_assoc]; rfl), 0 + errors, rfl⟩
    · rintro after ⟨_, hAdded, errors, rfl⟩
      exact ⟨_, hAdded.trans (by rw [hAccount, mul_assoc]; rfl), 0 + errors, rfl⟩

/-- A run that returns for an event that is not stale leaves the objects of its result. -/
theorem outputs_of_returned {calls : Nat} {w : World} {source : IngestSource} {result : TransformResult}
    (hOutcome : (s.processCsvAsync source plan calls w).outcome = .returned ())
    (hStale : w.staleEvent source = .ok false) (hResult : s.transformed source w = .ok result) :
    ((s.processCsvAsync source plan calls w).state.outputs source).Perm
      (prepareOutputs source result) := by
  cases (s.processCsvAsync_effect source plan calls w).2 with
  | skipped _ hSkip _ _ => rw [hStale] at hSkip; cases hSkip
  | interrupted hEnded _ _ _ _ => exact absurd hOutcome hEnded
  | torn _ hEnded _ _ _ _ _ _ => exact absurd hOutcome hEnded
  | unsaved _ _ hEnded _ _ _ _ _ _ => exact absurd hOutcome hEnded
  | published result' complete _ _ hResult' hReconciled hAnalytics _ =>
      rw [hResult] at hResult'
      cases hResult'
      exact outputs_published hResult hReconciled hAnalytics

/-- A run writes `ingest_complete` once, if it returns for an event that is not stale,
and otherwise never. The line counts the rows that the objects of its source then hold,
whatever else has been done to the bucket before. -/
theorem IngestService.complete_line_exact (s : IngestService) (source : IngestSource)
    (plan : FaultPlan) (calls : Nat) (w : World) :
    let run := s.processCsvAsync source plan calls w
    let outputs := run.state.outputs source
    ∃ a, run.state.account = w.account * a ∧
      (a.completed ≠ [] ↔ run.outcome = .returned () ∧ w.staleEvent source = .ok false) ∧
      ∀ line ∈ a.completed, a.completed = [line] ∧ line.source = source ∧
        (outputs.flatMap (·.2.usageRows)).length = line.usageDailyRows ∧
        (outputs.flatMap (·.2.modelRows)).length = line.modelMessagesRows ∧
        ∃ result, s.transformed source w = .ok result ∧ line = .ofResult source result ∧
          outputs.Perm (prepareOutputs source result) := by
  intro run outputs
  have hRun : Triple plan (· = w) (s.processCsvAsync source) _ := processCsvAsync_ends s source w
  obtain ⟨_, hOutcome, a, hAccount, ⟨hStale, rfl⟩ | ⟨result, hStale, hResult, rfl⟩⟩ |
    ⟨_, hOutcome, _, hAccount, errors, rfl⟩ | ⟨hOutcome, _, hAccount, errors, rfl⟩ :=
    hRun.ends calls
  · refine ⟨_, hAccount, ⟨fun h => absurd rfl h, ?_⟩, List.forall_mem_nil _⟩
    rintro ⟨_, hFresh⟩
    rw [hStale] at hFresh
    cases hFresh
  · have hPerm : outputs.Perm (prepareOutputs source result) :=
      outputs_of_returned hOutcome hStale hResult
    refine ⟨_, hAccount, ⟨fun _ => ⟨hOutcome, hStale⟩, fun _ => List.cons_ne_nil _ _⟩, ?_⟩
    intro line hLine
    rw [List.mem_singleton.mp hLine]
    refine ⟨rfl, rfl, ?_, ?_, result, hResult, rfl, hPerm⟩
    · rw [(hPerm.flatMap_right _).length_eq, usageRows_prepareOutputs, List.length_flatMap]
      rfl
    · rw [(hPerm.flatMap_right _).length_eq, modelRows_prepareOutputs, List.length_flatMap]
      rfl
  · refine ⟨_, hAccount, ⟨fun h => absurd rfl h, ?_⟩, List.forall_mem_nil _⟩
    rintro ⟨hReturned, _⟩
    rw [hOutcome] at hReturned
    cases hReturned
  · refine ⟨_, hAccount, ⟨fun h => absurd rfl h, ?_⟩, List.forall_mem_nil _⟩
    rintro ⟨hReturned, _⟩
    rw [hOutcome] at hReturned
    cases hReturned

/-- A run is one turn, which has failed if it throws. -/
theorem processCsvAsync_books (source : IngestSource) :
    Books plan World.account (s.processCsvAsync source)
      ⟨fun _ a => a.Turns 1 0, fun _ a => a.Turns 1 1, Account.CutOff⟩ := by
  have hRun (completed : List Completion) : (Account.ofRun source completed).Turns 1 0 :=
    ⟨⟨.refl _, le_refl 1, le_refl 0, le_refl 0⟩, rfl, rfl, fun _ => rfl, rfl, rfl, rfl⟩
  intro before
  refine (processCsvAsync_ends s source before).consequence (fun _ hs => hs) ?_ ?_ ?_
  · rintro _ after ⟨a, hBooked, ⟨_, rfl⟩ | ⟨_, _, _, rfl⟩⟩
    · exact ⟨_, hBooked, hRun _⟩
    · exact ⟨_, hBooked, hRun _⟩
  · rintro _ after ⟨_, hBooked, errors, rfl⟩
    exact ⟨_, hBooked, ⟨.refl _, le_refl 1, Nat.le_add_left 1 errors, Nat.zero_le _⟩, rfl, rfl, nofun,
      rfl, rfl, rfl⟩
  · rintro after ⟨_, hBooked, errors, rfl⟩
    exact ⟨_, hBooked, ⟨List.nil_sublist _, le_refl 1, Nat.zero_le _, Nat.zero_le _⟩, rfl, rfl⟩

end Runs

section Pages

variable {s : IngestService} {plan : FaultPlan}

/-- The object is one turn if it is selected, and a key without a date is a failure. -/
theorem backfillObject_books (fromDate toDate : Option DateOnly) (key : Str) :
    Books plan World.account (s.backfillObject fromDate toDate key)
      ⟨fun out a => a.Turns out.1 out.2.length, fun _ _ => False, Account.CutOff⟩ := by
  unfold IngestService.backfillObject
  split_ifs with hCsv
  · cases hDate : extractDateFromKey key with
    | none =>
        apply Books.bind fun _ a =>
          a = Account.ofLine (.backfillInvalidKey s.rawBucket key (invalidKeyError key))
        · exact logLine_books _ rfl
        · rintro _ _ rfl
          exact Books.done _ ⟨⟨.refl _, le_refl 0, le_refl 1, Nat.zero_le _⟩, rfl, rfl, nofun, rfl,
            rfl, rfl⟩
    | some keyDate =>
        dsimp only
        split_ifs with hOutside
        · exact Books.done _ Account.turns_one
        · have hSelects : IngestService.selects fromDate toDate key = true := by
            rw [IngestService.selects, hCsv, hDate]
            simpa using hOutside
          obtain ⟨source, hSource⟩ := s.create_of_selects fromDate toDate hSelects
          apply Books.bind fun failure a => a.Turns 1 failure.toList.length
          · apply Books.attempt
            rw [hSource]
            exact processCsvAsync_books source
          · intro failure booked hBooked
            exact Books.done _ (by simpa only [Post.after, mul_one] using hBooked)
  · exact Books.done _ Account.turns_one

/-- The loop adds up the turns. -/
theorem backfillObjects_books (fromDate toDate : Option DateOnly) (keys : List Str)
    (processed : Nat) (failures : List Exn) :
    Books plan World.account (s.backfillObjects fromDate toDate keys processed failures)
      ⟨fun out a => ∃ more failed, out.1 = processed + more ∧ out.2.length = failures.length + failed ∧
        a.Turns more failed, fun _ _ => False, Account.CutOff⟩ := by
  induction keys generalizing processed failures with
  | nil => exact Books.done _ ⟨0, 0, rfl, rfl, Account.turns_one⟩
  | cons key rest ih =>
      apply Books.bind fun out a => a.Turns out.1 out.2.length
      · exact backfillObject_books fromDate toDate key
      · rintro ⟨count, errors⟩ booked hBooked
        refine (ih (processed + count) (failures ++ errors)).weaken ?_ (fun _ _ h => h) ?_
        · rintro out a ⟨more, failed, hMore, hFailed, hTurns⟩
          refine ⟨count + more, errors.length + failed, by omega, ?_, hBooked.mul hTurns⟩
          rw [hFailed, List.length_append, Nat.add_assoc]
        · exact fun a h => hBooked.mul_cutOff h

theorem backfillPage_books (fromDate toDate : Option DateOnly) (keys : List Str) :
    Books plan World.account (s.backfillObjects fromDate toDate keys 0 [])
      ⟨fun out a => a.Turns out.1 out.2.length, fun _ _ => False, Account.CutOff⟩ := by
  refine (backfillObjects_books fromDate toDate keys 0 []).weaken ?_ (fun _ _ h => h) fun _ h => h
  rintro out a ⟨processed, failed, hProcessed, hFailed, h⟩
  rw [Nat.zero_add] at hProcessed
  rw [List.length_nil, Nat.zero_add] at hFailed
  subst hProcessed hFailed
  exact h

/-- A record that names no object fails without a line of its own. -/
theorem handleRecords_books {f : Function} (records : List S3Record) (failures : List Exn) :
    Books plan World.account (f.handleRecords records failures)
      ⟨fun out a => ∃ processed failed, failures.length + failed ≤ out.length ∧ a.Turns processed failed,
        fun _ _ => False, Account.CutOff⟩ := by
  induction records generalizing failures with
  | nil => exact Books.done _ ⟨0, 0, le_refl _, Account.turns_one⟩
  | cons record rest ih =>
      apply Books.bind fun failure a =>
        ∃ processed failed, failed ≤ failure.toList.length ∧ a.Turns processed failed
      · apply Books.attempt
        cases record.source f.ingest.platform with
        | error error => exact Books.throwing error ⟨0, 0, Nat.zero_le _, Account.turns_one⟩
        | ok source =>
            exact (processCsvAsync_books source).weaken (fun _ _ h => ⟨1, 0, le_refl 0, h⟩)
              (fun _ _ h => ⟨1, 1, le_refl 1, h⟩) fun _ h => h
      · rintro failure booked ⟨processed, failed, hFailed, hBooked⟩
        refine (ih (failures ++ failure.toList)).weaken ?_ (fun _ _ h => h) ?_
        · rintro out a ⟨processed', failed', hFailed', hTurns⟩
          rw [List.length_append] at hFailed'
          exact ⟨_, _, by omega, hBooked.mul hTurns⟩
        · exact fun a h => hBooked.mul_cutOff h

/-- A page line is true to the page. -/
structure Account.Paged (a : Account) : Prop extends a.Fair 0 where
  escaped : a.thrown = []
  reported : ∀ page ∈ a.pages, page.objectsProcessed = a.begun.length ∧
    page.objectsFailed = a.failures ∧ a.payloads.length = if page.continuationScheduled then 1 else 0

/-- What the work of an invocation comes to. If it succeeds, nothing was logged as an
error, and if it fails after its page line, the line has told so. -/
def Account.worked : Post Account Exn Unit where
  returned _ a := a.Paged ∧ a.errors = 0
  threw _ a := a.Paged ∧ ∀ page ∈ a.pages, page.objectsFailed ≠ 0
  killed := Account.CutOff

theorem Account.Turns.paged {a : Account} {processed failed : Nat} (h : a.Turns processed failed) :
    a.Paged :=
  ⟨h.toFair, h.escaped, by rw [h.pages]; exact List.forall_mem_nil _⟩

theorem scheduleNext_books (fromDate toDate : Option DateOnly) (token : Option Str) :
    Books plan World.account (s.scheduleNext fromDate toDate token)
      ⟨fun _ a => ∃ payloads, a = { (1 : Account) with payloads } ∧
        payloads.length = if token.isSome then 1 else 0,
      fun _ a => ∃ payloads, a = { (1 : Account) with payloads }, fun a => a = 1⟩ := by
  cases token with
  | none => exact Books.done () ⟨[], rfl, rfl⟩
  | some token =>
      apply Books.catching fun _ a => ∃ payloads, a = { (1 : Account) with payloads }
      · exact Books.call _ (fun w => account_invoke w _) (fun _ => ⟨_, rfl, rfl⟩) (fun _ => ⟨_, rfl⟩)
          (fun _ => ⟨[], rfl⟩) rfl
      · rintro _ _ ⟨payloads, rfl⟩
        exact Books.throwing _ ⟨payloads, mul_one _⟩

theorem Account.fair_payloads (payloads : List Json) : Account.Fair { (1 : Account) with payloads } 0 :=
  ⟨.refl [], le_refl 0, le_refl 0, le_refl 0⟩

/-- The line of a page that is over. -/
theorem Account.Turns.reported {payloads : List Json} {scheduled : Bool} {a : Account}
    {processed failed : Nat} (h : a.Turns processed failed)
    (hPayloads : payloads.length = if scheduled then 1 else 0) :
    ({ (1 : Account) with payloads } *
      (a * Account.ofLine (.backfillPageComplete processed failed scheduled))).Paged where
  toFair := by
    have hLine : (Account.ofLine (.backfillPageComplete processed failed scheduled)).Fair 0 :=
      ⟨.refl [], le_refl 0, le_refl 0, le_refl 0⟩
    exact (fair_payloads payloads).mul (h.toFair.mul hLine)
  escaped := by
    change a.thrown ++ [] = []
    rw [h.escaped, List.append_nil]
  reported := by
    intro page hm
    change page ∈ a.pages ++ [⟨processed, failed, scheduled⟩] at hm
    rw [h.pages, List.nil_append, List.mem_singleton] at hm
    subst hm
    refine ⟨?_, ?_, ?_⟩
    · change processed = (a.begun ++ []).length
      rw [List.append_nil, h.begun_length]
    · change failed = 0 + (a.failures + 0)
      rw [Nat.zero_add, Nat.add_zero, h.failures_eq]
    · change (payloads ++ (a.payloads ++ [])).length = _
      rw [h.payloads, List.append_nil, List.append_nil, hPayloads]

theorem processBackfillAsync_books (fromDate toDate : Option DateOnly) (token : Option Str) :
    Books plan World.account (s.processBackfillAsync fromDate toDate token) Account.worked := by
  have hNone (error : Exn) : Account.worked.threw error 1 := ⟨Account.turns_one.paged, nofun⟩
  unfold IngestService.processBackfillAsync
  split_ifs
  · exact Books.throwing _ (hNone _)
  · apply Books.silent_bind
    · intro booked
      apply Keeps.modify
      intro w h
      rw [account_logLine, h]
      exact mul_one booked
    · exact hNone
    · exact Account.turns_one.cutOff
    · intro _
      apply Books.silent_bind (fun _ => awsQuery_unlogged _ _) hNone
        Account.turns_one.cutOff
      intro response
      apply Books.silent_bind (fun _ => .ofExcept _) hNone Account.turns_one.cutOff
      intro next
      apply Books.bind fun _ a => ∃ payloads, a = { (1 : Account) with payloads } ∧
        payloads.length = if next.isSome then 1 else 0
      · refine (scheduleNext_books fromDate toDate next).weaken (fun _ _ h => h) ?_ ?_
        · rintro _ _ ⟨payloads, rfl⟩
          exact ⟨⟨Account.fair_payloads payloads, rfl, nofun⟩, nofun⟩
        · rintro _ rfl
          exact Account.turns_one.cutOff
      · rintro _ _ ⟨payloads, rfl, hPayloads⟩
        apply Books.bind fun out a => a.Turns out.1 out.2.length
        · refine (backfillPage_books fromDate toDate _).weaken (fun _ _ h => h) (fun _ _ h => h.elim) ?_
          intro a h
          exact ⟨Nat.zero_add 1 ▸ (Account.fair_payloads payloads).mul h.toFair, h.escaped, h.pages⟩
        · rintro ⟨processed, failures⟩ turns hTurns
          have hPage := hTurns.reported hPayloads
          apply Books.bind fun _ a =>
            a = Account.ofLine (.backfillPageComplete processed failures.length next.isSome)
          · exact logLine_books _ rfl
          · rintro _ _ rfl
            split_ifs with hFailures
            · apply Books.throwing
              simp only [Post.after, mul_one]
              refine ⟨hPage, fun page hm => ?_⟩
              rw [(hPage.reported page hm).2.1]
              change 0 + (turns.failures + 0) ≠ 0
              rw [hTurns.failures_eq, Nat.zero_add, Nat.add_zero]
              exact Nat.ne_of_gt hFailures
            · apply Books.done
              simp only [Post.after, mul_one]
              refine ⟨hPage, ?_⟩
              change 0 + (turns.errors + 0) = 0
              rw [hTurns.clean (Nat.eq_zero_of_not_pos hFailures)]

theorem handleS3EventAsync_books {f : Function} (records : Option (List S3Record)) :
    Books plan World.account (f.handleS3EventAsync records) Account.worked := by
  apply Books.bind fun out a => ∃ processed failed, failed ≤ out.length ∧ a.Turns processed failed
  · refine (handleRecords_books _ []).weaken ?_ (fun _ _ h => h.elim) fun _ h => h
    rintro out a ⟨processed, failed, hFailed, h⟩
    exact ⟨processed, failed, by simpa using hFailed, h⟩
  · rintro failures booked ⟨processed, failed, hFailed, h⟩
    split_ifs with hFailures
    · apply Books.throwing
      simp only [Post.after, mul_one]
      exact ⟨h.paged, by rw [h.pages]; exact List.forall_mem_nil _⟩
    · apply Books.done
      simp only [Post.after, mul_one]
      exact ⟨h.paged, h.clean (by omega)⟩

end Pages

section Invocation

variable {f : Function} {plan : FaultPlan}

theorem throwing_books (error : Exn) :
    Books plan World.account (Async.throwing error : Ingest Unit) Account.worked :=
  Books.throwing error ⟨Account.turns_one.paged, nofun⟩

/-- A pure step before the work of an invocation. -/
theorem ofExcept_books {α : Type} (result : Except Exn α) {next : α → Ingest Unit}
    (h : ∀ value, Books plan World.account (next value) Account.worked) :
    Books plan World.account (Async.ofExcept result >>= next) Account.worked :=
  Books.silent_bind (fun _ => .ofExcept _) (fun _ => ⟨Account.turns_one.paged, nofun⟩)
    Account.turns_one.cutOff h

theorem handleModeRequestAsync_books (root mode : Json) :
    Books plan World.account (f.handleModeRequestAsync root mode) Account.worked := by
  cases mode with
  | string _ =>
      apply ofExcept_books
      rintro (_ | backfill)
      · exact throwing_books _
      · exact ofExcept_books _ fun _ => processBackfillAsync_books _ _ _
  | _ => exact throwing_books _

theorem dispatch_books (input : Json) :
    Books plan World.account (f.dispatch input) Account.worked := by
  unfold Function.dispatch
  split
  · split
    · exact handleModeRequestAsync_books _ _
    · split
      · apply ofExcept_books
        rintro (_ | records)
        · exact throwing_books _
        · exact handleS3EventAsync_books records
      · exact throwing_books _
  · exact throwing_books _

/-- What an invocation that ends in this way adds to the account. -/
structure Account.Told (a : Account) (outcome : Outcome Exn Unit) : Prop extends
    a.Fair (if outcome.isKilled then 1 else 0) where
  escaped : a.thrown = outcome.escaped.toList
  clean : outcome.hasReturned = true → a.errors = 0
  reported : ∀ page ∈ a.pages, a.ended = a.begun ∧ page.objectsProcessed = a.begun.length ∧
    page.objectsFailed = a.failures ∧
    a.payloads.length = (if page.continuationScheduled then 1 else 0) ∧
    (outcome.hasReturned = true ↔ page.objectsFailed = 0)

theorem handleAsync_books (input : Json) :
    Books plan World.account (f.handleAsync input)
      ⟨fun value a => a.Told (.returned value), fun error a => a.Told (.threw error),
        fun a => a.Told .killed⟩ := by
  apply Books.catching Account.worked.threw
  · refine (dispatch_books input).weaken ?_ (fun _ _ h => h) ?_
    · rintro _ a ⟨hPaged, hClean⟩
      refine ⟨hPaged.toFair, hPaged.escaped, fun _ => hClean, fun page hm => ?_⟩
      obtain ⟨hProcessed, hFailed, hScheduled⟩ := hPaged.reported page hm
      refine ⟨hPaged.ended_eq, hProcessed, hFailed, hScheduled, fun _ => ?_, fun _ => rfl⟩
      have hFailures := hPaged.failures
      omega
    · intro a h
      exact ⟨h.toFair, h.escaped, fun h => absurd h Bool.false_ne_true,
        by rw [h.pages]; exact List.forall_mem_nil _⟩
  · rintro error booked ⟨hPaged, hFailed⟩
    apply Books.bind fun _ a => a = Account.ofLine (.invocationError error)
    · exact logLine_books _ rfl
    · rintro _ _ rfl
      apply Books.throwing
      simp only [Post.after, mul_one]
      have hLine : (Account.ofLine (.invocationError error)).Fair 0 :=
        ⟨.refl [], le_refl 0, Nat.zero_le 1, le_refl 1⟩
      have hFair : (booked * Account.ofLine (.invocationError error)).Fair 0 := hPaged.toFair.mul hLine
      refine ⟨hFair, ?_, fun h => absurd h Bool.false_ne_true, fun page hm => ?_⟩
      · change booked.thrown ++ [error] = [error]
        rw [hPaged.escaped, List.nil_append]
      · change page ∈ booked.pages ++ [] at hm
        rw [List.append_nil] at hm
        obtain ⟨hProcessed, hFailures, hScheduled⟩ := hPaged.reported page hm
        refine ⟨hFair.ended_eq, ?_, ?_, ?_, fun h => absurd h Bool.false_ne_true,
          fun h => absurd h (hFailed page hm)⟩
        · rw [Account.mul_begun, List.length_append, hProcessed]
          rfl
        · exact hFailures
        · rw [Account.mul_payloads, List.length_append, hScheduled]
          rfl

/-- What any invocation adds, whatever its payload and however its calls fare. -/
theorem Function.handleAsync_told (f : Function) (plan : FaultPlan) (input : Json) (calls : Nat)
    (w : World) :
    let run := f.handleAsync input plan calls w
    ∃ a, run.state.account = w.account * a ∧ a.Told run.outcome := by
  intro run
  have hRun : run.Meets _ := (handleAsync_books input).run calls w
  unfold Result.Meets at hRun
  cases hOutcome : run.outcome with
  | returned value => simpa only [run, hOutcome, Booked] using hRun
  | threw error => simpa only [run, hOutcome, Booked] using hRun
  | killed => simpa only [run, hOutcome, Booked] using hRun

/-- Runs of the function, with how its invocations ended. Nobody else writes its log,
its history or its queue. -/
inductive Function.Runs (f : Function) (start : World) : List (Outcome Exn Unit) → World → Prop
  | start : Runs f start [] start
  | invoke {outcomes : List (Outcome Exn Unit)} {w : World} (h : Runs f start outcomes w)
      (plan : FaultPlan) (input : Json) (calls : Nat) :
      Runs f start (outcomes ++ [(f.handleAsync input plan calls w).outcome])
        (f.handleAsync input plan calls w).state
  | other {outcomes : List (Outcome Exn Unit)} {w after : World} (h : Runs f start outcomes w)
      (hLog : after.log = w.log) (hHistory : after.history = w.history)
      (hInvocations : after.invocations = w.invocations) : Runs f start outcomes after

/-- An invocation has succeeded exactly if it was not cut off and has logged no error. -/
theorem Account.Told.hasReturned_iff {a : Account} {outcome : Outcome Exn Unit} (h : a.Told outcome) :
    outcome.hasReturned = true ↔ outcome.isKilled = false ∧ a.errors = 0 := by
  constructor
  · intro hReturned
    have hOutcome := Outcome.eq_returned hReturned
    exact ⟨hOutcome ▸ rfl, h.clean hReturned⟩
  · rintro ⟨hAlive, hErrors⟩
    cases outcome with
    | returned value => rfl
    | threw error =>
        have hLine := h.thrown
        rw [h.escaped, hErrors] at hLine
        cases hLine
    | killed => cases hAlive

/-- Over any runs, the end lines of the log name the runs of `ProcessCsvAsync` that
have begun, in their order, but for one at most for each invocation that was cut off;
the errors that invocations ended with are there, in their order; and all invocations
have succeeded exactly if none was cut off and there is no error line. -/
theorem Function.Runs.log_tells {f : Function} {start w : World} {outcomes : List (Outcome Exn Unit)}
    (h : f.Runs start outcomes w) :
    ∃ a, w.account = start.account * a ∧ a.Fair (outcomes.countP Outcome.isKilled) ∧
      a.thrown = outcomes.filterMap Outcome.escaped ∧
      ((∀ outcome ∈ outcomes, outcome.hasReturned = true) ↔
        outcomes.countP Outcome.isKilled = 0 ∧ a.errors = 0) := by
  induction h with
  | start => exact ⟨1, (mul_one _).symm, Account.fair_one, rfl, fun _ => ⟨rfl, rfl⟩, fun _ => nofun⟩
  | invoke h plan input calls ih =>
      obtain ⟨a, hAccount, hFair, hThrown, hReturned⟩ := ih
      obtain ⟨b, hRun, hTold⟩ := f.handleAsync_told plan input calls _
      refine ⟨a * b, ?_, ?_, ?_, ?_⟩
      · rw [hRun, hAccount, mul_assoc]
      · rw [List.countP_append, List.countP_singleton]
        exact hFair.mul hTold.toFair
      · rw [filterMap_concat, Account.mul_thrown, hThrown, hTold.escaped]
      · rw [List.forall_mem_append, hReturned, List.forall_mem_singleton, hTold.hasReturned_iff,
          List.countP_append, List.countP_singleton, Account.mul_errors]
        constructor
        · rintro ⟨⟨hAlive, hErrors⟩, hLast, hNone⟩
          exact ⟨by rw [hAlive, hLast]; rfl, by omega⟩
        · rintro ⟨hAlive, hErrors⟩
          have hLast := Nat.eq_zero_of_add_eq_zero_left hAlive
          refine ⟨⟨by omega, by omega⟩, ?_, by omega⟩
          cases hKilled : (f.handleAsync input plan calls _).outcome.isKilled with
          | false => rfl
          | true => simp [hKilled] at hLast
  | other h hLog hHistory hInvocations ih =>
      obtain ⟨a, hAccount, hRest⟩ := ih
      refine ⟨a, ?_, hRest⟩
      rw [← hAccount]
      simp only [World.account, hLog, hHistory, hInvocations]

/-- A failed invocation of the example has left an error line. -/
theorem log_tells_example :
    let run := exampleFunction.handleAsync exampleRoot Plan.healthy 0 exampleListed
    run.outcome.hasReturned = false ∧ run.state.account.errors ≠ 0 := by
  intro run
  have hFailed : run.outcome.hasReturned = false := by decide
  have hRuns : exampleFunction.Runs exampleListed ([] ++ [run.outcome]) run.state :=
    .invoke .start Plan.healthy exampleRoot 0
  obtain ⟨a, hAccount, _, _, hReturned⟩ := hRuns.log_tells
  refine ⟨hFailed, fun hErrors => ?_⟩
  have hAlive : ([] ++ [run.outcome]).countP Outcome.isKilled = 0 := by decide
  rw [hAccount, Account.mul_errors] at hErrors
  have hAll := hReturned.mpr ⟨hAlive, Nat.eq_zero_of_add_eq_zero_left hErrors⟩
  rw [hAll run.outcome List.mem_cons_self] at hFailed
  cases hFailed

/-- A page line is true whatever goes wrong on the page: it counts the runs that the
invocation has begun, all of which have ended, and the objects that failed, it says
whether the next page has been asked for, and the invocation succeeds exactly if the
line reports no failure. -/
theorem Function.page_line_exact (f : Function) (plan : FaultPlan) (input : Json) (calls : Nat)
    (w : World) :
    let run := f.handleAsync input plan calls w
    ∃ a, run.state.account = w.account * a ∧ ∀ page ∈ a.pages,
      a.ended = a.begun ∧ page.objectsProcessed = a.begun.length ∧ page.objectsFailed = a.failures ∧
        a.payloads.length = (if page.continuationScheduled then 1 else 0) ∧
        (run.outcome.hasReturned = true ↔ page.objectsFailed = 0) := by
  intro run
  obtain ⟨a, hAccount, hTold⟩ := f.handleAsync_told plan input calls w
  exact ⟨a, hAccount, hTold.reported⟩

end Invocation

end KiroIngest
