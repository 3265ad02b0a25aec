import KiroUsage.Grafana.Provisioning
import KiroUsage.Semantics.Leading

/-! How a Create or Update request is handled. SUCCESS is sent after a complete
provisioning only, one that has removed its credentials again, and whatever
fails, the removal of created credentials has been attempted. -/
namespace KiroGrafanaProvisioner

open Text Execution
open KiroIngest (Json tryGetProperty)

/-- A Create or an Update request. -/
def Upserts (request : Json) : Prop :=
  requiredString request "RequestType".toList = .ok "Create".toList ∨
    requiredString request "RequestType".toList = .ok "Update".toList

/-- A response of this status has been sent, with whatever result. -/
def responded (status : Status) : Language ProvisioningEvent :=
  {events | ∃ url response result, response.status = status ∧
    events = [.call (.respond url response) result]}

/-- The failure has been logged and answered, if it could be. -/
def reported : Language ProvisioningEvent := logged * (1 + responded .failed)

/-- A line of the log or a response. -/
def IsAnswer : ProvisioningEvent → Prop
  | .call (.respond ..) _ | .note _ => True
  | _ => False

namespace Host

variable {World : Type} (host : Host World)

/-- A Create or Update request that was answered as one that succeeded, and to
which no further answer was made. -/
def accomplished (request : Json) : Language ProvisioningEvent :=
  {events | ∃ properties, resourceProperties request = .ok properties ∧
    events ∈ host.complete properties * responded .success}

/-- A Create or Update request up to the point where it failed. -/
def broken (request : Json) : Language ProvisioningEvent :=
  {events | events = [] ∨ ∃ properties, resourceProperties request = .ok properties ∧
    events ∈ host.failed properties + host.complete properties * (1 + responded .success)}

/-- The handling of a Create or Update request. -/
def upserted (request : Json) : Language ProvisioningEvent :=
  host.accomplished request + host.broken request * reported

/-- What an invocation says and hears, from its start. -/
def events (input : Str) (w : World) : List ProvisioningEvent :=
  (host.handleAsync input Plan.healthy 0 ⟨w, []⟩).state.events

/-- Where an invocation leaves the services. -/
def after (input : Str) (w : World) : World :=
  (host.handleAsync input Plan.healthy 0 ⟨w, []⟩).state.world

/-- The response to CloudFormation changes nothing, so a request preserves what
the services leave alone. -/
theorem preserves_of_services {Value : Type} {view : World → Value} {request : Request}
    (h : ∀ {w result next}, host.services request w = (result, next) → view next = view w)
    (result : Except Exn (Reply request)) :
    Preserves host.answers view (.call request result : ProvisioningEvent) := by
  intro w next hCall
  cases request with
  | respond responseUrl response =>
      cases hCall
      rfl
  | _ => exact h hCall

end Host

section Handling

variable {World : Type} {host : Host World} {request : Json} {physicalResourceId : Str}
  {data : Option (List (Str × Str))} {reason : Option Str} {status : Status}
  {properties : ProvisioningProperties}

theorem respondAsync_tells :
    Tells host.answers 1 (host.respondAsync request status physicalResourceId data reason)
      (fun _ => responded status) (1 + responded status) := by
  unfold Host.respondAsync
  refine Tells.bind (fun _ => 1) (Tells.ofExcept (fun _ _ => le_refl _) fun _ _ => le_self_add)
    fun url => ?_
  refine Tells.bind (fun _ => 1) (Tells.ofExcept (fun _ _ => le_refl _) fun _ _ => le_self_add)
    fun stackId => ?_
  refine Tells.bind (fun _ => 1) (Tells.ofExcept (fun _ _ => le_refl _) fun _ _ => le_self_add)
    fun requestId => ?_
  refine Tells.bind (fun _ => 1) (Tells.ofExcept (fun _ _ => le_refl _) fun _ _ => le_self_add)
    fun logicalResourceId => ?_
  refine Tells.bind (fun _ => responded status) ((Tells.exchange _).weaken ?_ ?_) fun statusCode => ?_
  · rintro reply _ rfl
    exact ⟨_, _, _, rfl, rfl⟩
  · rintro _ ⟨error, rfl⟩
    exact Or.inr ⟨_, _, _, rfl, rfl⟩
  · split_ifs
    · exact Tells.done () (le_refl _)
    · exact Tells.throwing _ le_add_self

theorem handleUpsert_tells :
    Tells host.answers 1 (host.handleUpsert request) (fun _ => host.accomplished request)
      (host.broken request) := by
  unfold Host.handleUpsert
  cases hProperties : resourceProperties request with
  | error error =>
      refine Tells.throwing error ?_
      rintro _ rfl
      exact Or.inl rfl
  | ok properties =>
      change Tells host.answers 1 (host.provisionAsync properties >>= fun result => _) _ _
      refine Tells.bind _ (provisionAsync_tells.weaken (fun _ => le_refl _) ?_) fun result => ?_
      · exact fun _ hm => Or.inr ⟨properties, hProperties, Or.inl hm⟩
      · refine (respondAsync_tells.frame _).weaken (fun _ => ?_) ?_
        · exact fun _ hm => ⟨properties, hProperties, hm⟩
        · exact fun _ hm => Or.inr ⟨properties, hProperties, Or.inr hm⟩

theorem upserts_of_other {requestType : Str}
    (hType : requiredString request "RequestType".toList = .ok requestType)
    (hOther : ¬(requestType ≠ "Create".toList ∧ requestType ≠ "Update".toList)) : Upserts request := by
  unfold Upserts
  rw [hType]
  by_contra hNeither
  exact hOther ⟨fun h => hNeither (Or.inl (congrArg _ h)), fun h => hNeither (Or.inr (congrArg _ h))⟩

theorem tryHandle_of_type {requestType : Str}
    (hType : requiredString request "RequestType".toList = .ok requestType) :
    host.tryHandle request physicalResourceId =
      host.handleType request physicalResourceId requestType := by
  unfold Host.tryHandle
  rw [hType]
  rfl

theorem tryHandle_of_upserts (hType : Upserts request) :
    host.tryHandle request physicalResourceId = host.handleUpsert request := by
  rcases hType with hType | hType
  · rw [tryHandle_of_type hType, Host.handleType, if_neg (by decide),
      if_neg (by decide)]
  · rw [tryHandle_of_type hType, Host.handleType, if_neg (by decide),
      if_neg (by decide)]

theorem handleRequest_tells (hType : Upserts request) :
    Tells host.answers 1 (host.handleRequest request physicalResourceId)
      (fun _ => host.upserted request) (host.upserted request) := by
  unfold Host.handleRequest
  rw [tryHandle_of_upserts hType]
  refine Tells.catching (host.broken request) (handleUpsert_tells.weaken (fun _ => le_self_add)
    (le_refl _)) fun error => ?_
  have hNote : Tells host.answers 1 (Async.note (.provisioningError error)) (fun _ => logged) 0 :=
    (Tells.note _).weaken (fun _ _ hm => ⟨_, hm⟩) (le_refl _)
  refine Tells.bind _ (hNote.frame_safe (host.broken request)) fun _ => ?_
  refine (respondAsync_tells.frame _).weaken (fun _ => ?_) ?_
  · rw [mul_assoc]
    exact le_trans (mul_le_mul' (le_refl _) (mul_le_mul' (le_refl _) le_add_self)) le_add_self
  · rw [mul_assoc]
    exact le_add_self

/-- The resource id of an object is read without an error. -/
theorem optionalString_ok {text : Str} {propertyName : Str}
    (h : requiredString request propertyName = .ok text) (other : Str) :
    ∃ value, optionalString request other = .ok value := by
  cases request with
  | object members =>
      exact ⟨stringOf (tryGetProperty members other), rfl⟩
  | null => cases h
  | bool _ => cases h
  | number _ => cases h
  | string _ => cases h
  | array _ => cases h

/-- After the request is read, it is handled. -/
theorem handleAsync_eq {input text propertyName : Str} (hParse : host.parse input = .ok request)
    (h : requiredString request propertyName = .ok text) :
    ∃ physicalResourceId, host.handleAsync input = host.handleRequest request physicalResourceId := by
  obtain ⟨value, hId⟩ := optionalString_ok h "PhysicalResourceId".toList
  refine ⟨value.getD "kiro-grafana-provisioning".toList, ?_⟩
  unfold Host.handleAsync
  rw [hParse]
  change (Async.ofExcept (optionalString request _) >>= _ : Provisioning World Unit) = _
  rw [hId]
  rfl

theorem events_said {input : Str} {language : Language ProvisioningEvent} (w : World)
    (h : Tells host.answers 1 (host.handleAsync input) (fun _ => language) language) :
    host.events input w ∈ language ∧ Chain host.answers w (host.events input w) (host.after input w) := by
  obtain ⟨_, _, events, hm, hEvents, hChain⟩ | ⟨_, events, hm, hEvents, hChain⟩ := h.run 0 ⟨w, []⟩
  · rw [show host.events input w = events from hEvents]
    exact ⟨hm, hChain⟩
  · rw [show host.events input w = events from hEvents]
    exact ⟨hm, hChain⟩

/-- An invocation for a Create or Update request. -/
theorem events_upserted {input : Str} (w : World) (hParse : host.parse input = .ok request)
    (hType : Upserts request) :
    host.events input w ∈ host.upserted request ∧
      Chain host.answers w (host.events input w) (host.after input w) := by
  refine events_said w ?_
  obtain ⟨physicalResourceId, hEq⟩ : ∃ physicalResourceId,
      host.handleAsync input = host.handleRequest request physicalResourceId := by
    rcases hType with hType | hType
    · exact handleAsync_eq hParse hType
    · exact handleAsync_eq hParse hType
  rw [hEq]
  exact handleRequest_tells hType

theorem logged_le_only {allowed : ProvisioningEvent → Prop} (h : ∀ line, allowed (.note line)) :
    logged ≤ only allowed := by
  rintro _ ⟨line, rfl⟩ event hm
  rw [List.mem_singleton.mp hm]
  exact h line

theorem responded_le_only {allowed : ProvisioningEvent → Prop} (status : Status)
    (h : ∀ url response result, allowed (.call (.respond url response) result)) :
    responded status ≤ only allowed := by
  rintro _ ⟨url, response, result, _, rfl⟩ event hm
  rw [List.mem_singleton.mp hm]
  exact h _ _ _

theorem reported_le_answers : reported ≤ only IsAnswer :=
  mul_le_only (logged_le_only fun _ => trivial)
    (add_le one_le_only (responded_le_only .failed fun _ _ _ => trivial))

theorem success_le_answers : responded .success * (1 + reported) ≤ only IsAnswer :=
  mul_le_only (responded_le_only .success fun _ _ _ => trivial)
    (add_le one_le_only reported_le_answers)

/-- An answer changes nothing. -/
theorem IsAnswer.preserves {Value : Type} {event : ProvisioningEvent} (h : IsAnswer event)
    (view : World → Value) : Preserves host.answers view event := by
  cases event with
  | note line => trivial
  | call request result =>
      cases request with
      | respond responseUrl response =>
          rintro _ _ hCall
          cases hCall
          rfl
      | _ => exact h.elim

/-- Any other request is at most answered. -/
theorem handleRequest_answers (hType : ¬Upserts request) :
    Tells host.answers 1 (host.handleRequest request physicalResourceId)
      (fun _ => only IsAnswer) (only IsAnswer) := by
  have hAnswers (status : Status) : 1 + responded status ≤ only IsAnswer :=
    add_le one_le_only (responded_le_only status fun _ _ _ => trivial)
  have hBody : Tells host.answers 1 (host.tryHandle request physicalResourceId)
      (fun _ => only IsAnswer) (only IsAnswer) := by
    cases hRequestType : requiredString request "RequestType".toList with
    | error error =>
        unfold Host.tryHandle
        rw [hRequestType]
        exact Tells.throwing error one_le_only
    | ok requestType =>
        rw [tryHandle_of_type hRequestType, Host.handleType]
        split_ifs with hDelete hOther
        · exact respondAsync_tells.weaken (fun _ => le_trans le_add_self (hAnswers _)) (hAnswers _)
        · exact Tells.throwing _ one_le_only
        · exact (hType (upserts_of_other hRequestType hOther)).elim
  unfold Host.handleRequest
  refine Tells.catching (only IsAnswer) hBody fun error => ?_
  have hNote : Tells host.answers 1 (Async.note (.provisioningError error)) (fun _ => logged) 0 :=
    (Tells.note _).weaken (fun _ _ hm => ⟨_, hm⟩) (le_refl _)
  refine Tells.bind _ (hNote.frame_safe (only IsAnswer)) fun _ => ?_
  have hLogged : only IsAnswer * logged ≤ only IsAnswer :=
    mul_le_only (le_refl _) (logged_le_only fun _ => trivial)
  exact (respondAsync_tells.frame _).weaken
    (fun _ => mul_le_only hLogged (le_trans le_add_self (hAnswers _))) (mul_le_only hLogged (hAnswers _))

/-- An invocation that is not for a Create or Update request. -/
theorem events_answers {input : Str} (w : World)
    (hOther : ∀ request, host.parse input = .ok request → ¬Upserts request) :
    host.events input w ∈ only IsAnswer ∧
      Chain host.answers w (host.events input w) (host.after input w) := by
  refine events_said w ?_
  unfold Host.handleAsync
  cases hParse : host.parse input with
  | error error => exact Tells.throwing error one_le_only
  | ok request =>
      change Tells host.answers 1 (Async.ofExcept (optionalString request _) >>= _) _ _
      cases optionalString request "PhysicalResourceId".toList with
      | error error => exact Tells.throwing error one_le_only
      | ok physicalResourceId => exact handleRequest_answers (hOther request hParse)

end Handling

end KiroGrafanaProvisioner
