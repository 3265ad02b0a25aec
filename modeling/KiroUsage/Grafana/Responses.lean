import KiroUsage.Grafana.Completeness
import KiroUsage.Semantics.Loops

/-! The responses of one invocation. A SUCCESS response is sent inside the `try`
whose `catch` sends FAILED, so a reply that is lost turns one answer into two. -/
namespace KiroGrafanaProvisioner

open Text Execution
open KiroIngest (Json)

/-- What a request must carry to be answered at this URL. -/
structure Addresses (request : Json) (responseUrl : Str) : Prop where
  responseUrl : requiredString request "ResponseURL".toList = .ok responseUrl
  stackId : ∃ text, requiredString request "StackId".toList = .ok text
  requestId : ∃ text, requiredString request "RequestId".toList = .ok text
  logicalResourceId : ∃ text, requiredString request "LogicalResourceId".toList = .ok text

/-- The reply has arrived, and `EnsureSuccessStatusCode` accepts it. -/
def Delivery.acknowledged (delivery : Delivery) : Bool :=
  match delivery.reply with
  | .ok statusCode => 200 ≤ statusCode && statusCode ≤ 299
  | .error _ => false

def responseOf : ProvisioningEvent → Option (Str × Status)
  | .call (.respond responseUrl response) _ => some (responseUrl, response.status)
  | _ => none

/-- The responses that are sent, in their order. -/
def responses (events : List ProvisioningEvent) : List (Str × Status) := events.filterMap responseOf

theorem mem_responses {events : List ProvisioningEvent} {responseUrl : Str} {status : Status} :
    (responseUrl, status) ∈ responses events ↔ ∃ response result, response.status = status ∧
      .call (.respond responseUrl response) result ∈ events := by
  constructor
  · intro h
    obtain ⟨event, hm, hResponse⟩ := List.mem_filterMap.mp h
    cases event with
    | note line => cases hResponse
    | call request result =>
        cases request with
        | respond url response =>
            cases hResponse
            exact ⟨response, result, rfl, hm⟩
        | _ => cases hResponse
  · rintro ⟨response, result, rfl, hm⟩
    exact List.mem_filterMap.mpr ⟨_, hm, rfl⟩

theorem responses_append (first second : List ProvisioningEvent) :
    responses (first ++ second) = responses first ++ responses second :=
  List.filterMap_append

theorem responses_unanswered {events : List ProvisioningEvent} (h : events ∈ only IsUnanswered) :
    responses events = [] := by
  refine List.filterMap_eq_nil_iff.mpr fun event hm => ?_
  have hEvent := h event hm
  cases event with
  | note line => rfl
  | call request result =>
      cases request with
      | respond => exact hEvent.elim
      | _ => rfl

namespace Host

variable {World : Type} (host : Host World)

/-- CloudFormation gets a response of this status at the URL. -/
def Delivers (input : Str) (w : World) (responseUrl : Str) (status : Status) : Prop :=
  (host.deliver responseUrl status).delivered = true ∧ ∃ response result, response.status = status ∧
    .call (.respond responseUrl response) result ∈ host.events input w

/-- The request is a Delete, or the external calls let its provisioning succeed. -/
def Succeeds (request : Json) (w : World) : Prop :=
  requiredString request "RequestType".toList = .ok "Delete".toList ∨
    Upserts request ∧ ∃ properties, resourceProperties request = .ok properties ∧
      ∃ result, (host.provisionAsync properties Plan.healthy 0 ⟨w, []⟩).outcome = .returned result

end Host

section Responses

variable {World : Type} {host : Host World} {request : Json} {responseUrl physicalResourceId : Str}
  {status : Status} {data : Option (List (Str × Str))} {reason : Option Str} {w : World}

theorem responses_respond {responseUrl : Str} {response : CustomResourceResponse}
    (events : List ProvisioningEvent) (result : Except Exn Nat) :
    responses (events ++ [.call (.respond responseUrl response) result]) =
      responses events ++ [(responseUrl, response.status)] :=
  responses_append events _

/-- An answer is sent once. It returns if it is acknowledged, and throws otherwise. -/
theorem respondAsync_run (hAddresses : Addresses request responseUrl) (calls : Nat)
    {transcript : Transcript Request Reply World Exn LogLine} {before : List (Str × Status)}
    (hBefore : responses transcript.events = before) :
    let run := host.respondAsync request status physicalResourceId data reason Plan.healthy calls
      transcript
    responses run.state.events = before ++ [(responseUrl, status)] ∧
      ((host.deliver responseUrl status).acknowledged = true ∧ run.outcome = .returned () ∨
        (host.deliver responseUrl status).acknowledged = false ∧
          ∃ error, run.outcome = .threw error) := by
  obtain ⟨hUrl, ⟨stackId, hStack⟩, ⟨requestId, hRequest⟩, ⟨logicalId, hLogical⟩⟩ := hAddresses
  let response : CustomResourceResponse :=
    { status, physicalResourceId, stackId, requestId, logicalResourceId := logicalId
      reason := reason.getD "See CloudWatch Logs for the custom-resource provider".toList
      noEcho := false
      data := data.getD [] }
  let sent := host.exchange (.respond responseUrl response)
  have hEq : host.respondAsync request status physicalResourceId data reason =
      Async.andThen sent fun statusCode =>
        if 200 ≤ statusCode ∧ statusCode ≤ 299 then pure ()
        else Async.throwing (.httpRequest ("Response status code does not indicate success: ".toList ++
          (toString statusCode).toList)) := by
    unfold Host.respondAsync
    rw [hUrl, hStack, hRequest, hLogical]
    rfl
  have hAnswer : host.answers (.respond responseUrl response) transcript.world =
      ((host.deliver responseUrl status).reply, transcript.world) := rfl
  rw [hEq, Delivery.acknowledged, ← hBefore]
  cases hReply : (host.deliver responseUrl status).reply with
  | error error =>
      rw [hReply] at hAnswer
      have hSent : sent Plan.healthy calls transcript = ⟨.threw error, calls + 1, transcript.world,
          transcript.events ++ [.call (.respond responseUrl response) (.error error)]⟩ :=
        Async.exchange_of_error hAnswer calls
      rw [Async.andThen_of_threw (congrArg Result.outcome hSent), hSent]
      exact ⟨responses_respond _ _, Or.inr ⟨rfl, error, rfl⟩⟩
  | ok statusCode =>
      rw [hReply] at hAnswer
      have hSent : sent Plan.healthy calls transcript = ⟨.returned statusCode, calls + 1,
          transcript.world, transcript.events ++
            [.call (.respond responseUrl response) (.ok statusCode)]⟩ :=
        Async.exchange_of_ok hAnswer calls
      rw [Async.andThen_of_returned (congrArg Result.outcome hSent), hSent]
      by_cases hSuccess : 200 ≤ statusCode ∧ statusCode ≤ 299
      · rw [if_pos hSuccess]
        exact ⟨responses_respond _ _, Or.inl ⟨by simpa using hSuccess, rfl⟩⟩
      · rw [if_neg hSuccess]
        refine ⟨responses_respond _ _, Or.inr ⟨?_, _, rfl⟩⟩
        simpa using hSuccess

theorem handleUpsert_eq {properties : ProvisioningProperties}
    (hProperties : resourceProperties request = .ok properties) :
    host.handleUpsert request = Async.andThen (host.provisionAsync properties) fun result =>
      host.respondAsync request .success properties.workspaceId (some result) none := by
  unfold Host.handleUpsert
  rw [hProperties]
  rfl

/-- A provisioning does not answer. -/
theorem responses_provisioning (properties : ProvisioningProperties) :
    responses (host.provisionAsync properties Plan.healthy 0 ⟨w, []⟩).state.events = [] := by
  have hTells : Tells host.answers 1 (host.provisionAsync properties)
      (fun _ => host.complete properties) (host.failed properties) := provisionAsync_tells
  obtain ⟨_, _, events, hm, hEvents, _⟩ | ⟨_, events, hm, hEvents, _⟩ := hTells.run 0 ⟨w, []⟩
  · rw [hEvents]
    exact responses_unanswered (failed_le_unanswered (complete_le_failed hm))
  · rw [hEvents]
    exact responses_unanswered (failed_le_unanswered hm)

/-- Once SUCCESS is due, it is sent. -/
theorem tryHandle_of_succeeds (physicalResourceId : Str)
    (hAddresses : Addresses request responseUrl) (hSucceeds : host.Succeeds request w) :
    let run := host.tryHandle request physicalResourceId Plan.healthy 0 ⟨w, []⟩
    responses run.state.events = [(responseUrl, .success)] ∧
      ((host.deliver responseUrl .success).acknowledged = true ∧ run.outcome = .returned () ∨
        (host.deliver responseUrl .success).acknowledged = false ∧
          ∃ error, run.outcome = .threw error) := by
  rcases hSucceeds with hType | ⟨hType, properties, hProperties, result, hReturned⟩
  · rw [tryHandle_of_type hType, Host.handleType, if_pos rfl]
    exact respondAsync_run hAddresses 0 rfl
  · rw [tryHandle_of_upserts hType, handleUpsert_eq hProperties, Async.andThen_of_returned hReturned]
    exact respondAsync_run hAddresses _ (responses_provisioning properties)

/-- Otherwise the handling throws before it has answered. -/
theorem tryHandle_of_not_succeeds (physicalResourceId : Str) (hFails : ¬host.Succeeds request w) :
    let run := host.tryHandle request physicalResourceId Plan.healthy 0 ⟨w, []⟩
    responses run.state.events = [] ∧ ∃ error, run.outcome = .threw error := by
  cases hType : requiredString request "RequestType".toList with
  | error error =>
      unfold Host.tryHandle
      rw [hType]
      exact ⟨rfl, error, rfl⟩
  | ok requestType =>
      rw [tryHandle_of_type hType, Host.handleType]
      split_ifs with hDelete hOther
      · exact (hFails (Or.inl (hDelete ▸ hType))).elim
      · exact ⟨rfl, _, rfl⟩
      have hUpserts := upserts_of_other hType hOther
      cases hProperties : resourceProperties request with
      | error error =>
          unfold Host.handleUpsert
          rw [hProperties]
          exact ⟨rfl, error, rfl⟩
      | ok properties =>
          have hTells : Tells host.answers 1 (host.provisionAsync properties)
              (fun _ => host.complete properties) (host.failed properties) := provisionAsync_tells
          obtain ⟨result, hReturned, _⟩ | ⟨⟨error, hThrew⟩, _⟩ := hTells.run 0 ⟨w, []⟩
          · exact (hFails (Or.inr ⟨hUpserts, properties, hProperties, result, hReturned⟩)).elim
          · rw [handleUpsert_eq hProperties, Async.andThen_of_threw hThrew]
            exact ⟨responses_provisioning properties, error, rfl⟩

/-- A failure is answered after what was sent before it. -/
theorem responses_of_threw {sent : List (Str × Status)} {error : Exn}
    (hAddresses : Addresses request responseUrl)
    (hSent : responses (host.tryHandle request physicalResourceId Plan.healthy 0 ⟨w, []⟩).state.events =
      sent)
    (hThrew : (host.tryHandle request physicalResourceId Plan.healthy 0 ⟨w, []⟩).outcome =
      .threw error) :
    responses (host.handleRequest request physicalResourceId Plan.healthy 0 ⟨w, []⟩).state.events =
      sent ++ [(responseUrl, .failed)] := by
  unfold Host.handleRequest
  rw [Async.catching_of_threw hThrew]
  refine (respondAsync_run hAddresses _ ?_).1
  rw [responses_append, hSent]
  exact List.append_nil _

/-- The responses of an invocation whose SUCCESS is due. -/
theorem responses_of_succeeds {input : Str} (hParse : host.parse input = .ok request)
    (hAddresses : Addresses request responseUrl) (hSucceeds : host.Succeeds request w) :
    responses (host.events input w) = (responseUrl, .success) ::
      if (host.deliver responseUrl .success).acknowledged then [] else [(responseUrl, .failed)] := by
  obtain ⟨physicalResourceId, hEq⟩ := handleAsync_eq hParse hAddresses.responseUrl
  unfold Host.events
  rw [hEq]
  obtain ⟨hSent, ⟨hAcknowledged, hReturned⟩ | ⟨hLost, error, hThrew⟩⟩ :=
    tryHandle_of_succeeds physicalResourceId hAddresses hSucceeds
  · rw [hAcknowledged, Host.handleRequest, Async.catching_of_returned hReturned, hSent]
    rfl
  · rw [hLost, responses_of_threw hAddresses hSent hThrew]
    rfl

theorem responses_of_not_succeeds {input : Str} (hParse : host.parse input = .ok request)
    (hAddresses : Addresses request responseUrl) (hFails : ¬host.Succeeds request w) :
    responses (host.events input w) = [(responseUrl, .failed)] := by
  obtain ⟨physicalResourceId, hEq⟩ := handleAsync_eq hParse hAddresses.responseUrl
  unfold Host.events
  rw [hEq]
  obtain ⟨hSent, error, hThrew⟩ :=
    tryHandle_of_not_succeeds physicalResourceId hFails
  exact responses_of_threw hAddresses hSent hThrew

theorem delivers_iff {input : Str} : host.Delivers input w responseUrl status ↔
    (host.deliver responseUrl status).delivered = true ∧
      (responseUrl, status) ∈ responses (host.events input w) :=
  and_congr_right fun _ => mem_responses.symm

end Responses

/-- CloudFormation does not get two answers, unless SUCCESS is due and gets there
without being acknowledged, and FAILED gets there too. -/
theorem Host.one_status_iff {World : Type} (host : Host World) {input responseUrl : Str}
    {request : Json} (w : World) (hParse : host.parse input = .ok request)
    (hAddresses : Addresses request responseUrl) :
    ¬(host.Delivers input w responseUrl .success ∧ host.Delivers input w responseUrl .failed) ↔
      ¬(host.Succeeds request w ∧ (host.deliver responseUrl .success).delivered = true ∧
        (host.deliver responseUrl .success).acknowledged = false ∧
        (host.deliver responseUrl .failed).delivered = true) := by
  refine not_congr ?_
  rw [delivers_iff, delivers_iff]
  by_cases hSucceeds : host.Succeeds request w
  · rw [responses_of_succeeds hParse hAddresses hSucceeds]
    cases (host.deliver responseUrl .success).acknowledged with
    | true => simp
    | false => simp [hSucceeds]
  · rw [responses_of_not_succeeds hParse hAddresses hSucceeds]
    simp [hSucceeds]

section Example

theorem exampleRequest_addresses (requestType : Str) : Addresses (exampleRequest requestType) ['h'] :=
  ⟨by rfl, ⟨['s'], by rfl⟩, ⟨['i'], by rfl⟩, ⟨['l'], by rfl⟩⟩

/-- A host whose SUCCESS gets to CloudFormation, but the reply times out. -/
def lossyHost : Host Unit :=
  { exampleHost with deliver := fun _ status =>
      ⟨true, if status = .success then .error ⟨"TaskCanceledException".toList, []⟩ else .ok 200⟩ }

set_option maxRecDepth 20000 in
/-- A Delete request is answered with both. -/
theorem both_statuses_delivered :
    lossyHost.parse (exampleInput "Delete".toList) = .ok (exampleRequest "Delete".toList) ∧
    Addresses (exampleRequest "Delete".toList) ['h'] ∧
    lossyHost.Delivers (exampleInput "Delete".toList) () ['h'] .success ∧
    lossyHost.Delivers (exampleInput "Delete".toList) () ['h'] .failed := by
  have hResponses : responses (lossyHost.events (exampleInput "Delete".toList) ()) =
      [(['h'], .success), (['h'], .failed)] := by decide
  refine ⟨exampleParse_delete, exampleRequest_addresses _, ?_, ?_⟩
  · rw [delivers_iff, hResponses]
    exact ⟨rfl, List.mem_cons_self⟩
  · rw [delivers_iff, hResponses]
    exact ⟨rfl, List.mem_cons_of_mem _ List.mem_cons_self⟩

/-- Where every reply arrives, there is one answer. -/
theorem one_status_example :
    ¬(exampleHost.Delivers (exampleInput "Delete".toList) () ['h'] .success ∧
      exampleHost.Delivers (exampleInput "Delete".toList) () ['h'] .failed) :=
  (exampleHost.one_status_iff () exampleParse_delete (exampleRequest_addresses _)).mpr
    fun h => Bool.false_ne_true h.2.2.1.symm

end Example

end KiroGrafanaProvisioner
