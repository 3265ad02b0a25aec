import KiroUsage.Grafana.Handling

/-! What is known once SUCCESS is sent for a Create or Update request, and what is
done about the credentials in any case. -/
namespace KiroGrafanaProvisioner

open Text Execution
open KiroIngest (Json)

/-- A response of this status is among the events. -/
def Answered (status : Status) (events : List ProvisioningEvent) : Prop :=
  ∃ url response result, response.status = status ∧ .call (.respond url response) result ∈ events

def answers (status : Status) : ProvisioningEvent → Bool
  | .call (.respond _ response) _ => response.status == status
  | _ => false

theorem answered_of_any {status : Status} {events : List ProvisioningEvent}
    (h : events.any (answers status) = true) : Answered status events := by
  obtain ⟨event, hm, hAnswers⟩ := List.any_eq_true.mp h
  cases event with
  | note line => cases hAnswers
  | call request result =>
      cases request with
      | respond url response => exact ⟨url, response, result, beq_iff_eq.mp hAnswers, hm⟩
      | _ => cases hAnswers

/-- The request has been made, with whatever result. -/
def Attempted (request : Request) (events : List ProvisioningEvent) : Prop :=
  ∃ result, .call request result ∈ events

theorem Attempted.append_left {request : Request} {events : List ProvisioningEvent}
    (h : Attempted request events) (before : List ProvisioningEvent) :
    Attempted request (before ++ events) := by
  obtain ⟨result, hm⟩ := h
  exact ⟨result, List.mem_append_right _ hm⟩

theorem Attempted.append_right {request : Request} {events : List ProvisioningEvent}
    (h : Attempted request events) (after : List ProvisioningEvent) :
    Attempted request (events ++ after) := by
  obtain ⟨result, hm⟩ := h
  exact ⟨result, List.mem_append_left _ hm⟩

theorem attempted_of_heard {request : Request} {reply : Reply request}
    {events : List ProvisioningEvent} (h : events ∈ heard request reply) : Attempted request events :=
  ⟨.ok reply, h ▸ List.mem_singleton_self _⟩

theorem attempted_of_refused {request : Request} {events : List ProvisioningEvent}
    (h : events ∈ refused request) : Attempted request events := by
  obtain ⟨error, rfl⟩ := h
  exact ⟨.error error, List.mem_singleton_self _⟩

/-- Every account that was created has been told to go, and so has its token. -/
def Withdrawn (events : List ProvisioningEvent) : Prop :=
  ∀ workspaceId name role account,
    .call (.createWorkspaceServiceAccount workspaceId name role) (.ok account) ∈ events →
      Attempted (.deleteWorkspaceServiceAccount workspaceId account.id) events ∧
      ∀ name seconds token, .call (.createWorkspaceServiceAccountToken workspaceId account.id name
          seconds) (.ok token) ∈ events → isBlank token.id = false →
        Attempted (.deleteWorkspaceServiceAccountToken workspaceId account.id token.id) events

/-- No account has been created. -/
def IsUncreating : ProvisioningEvent → Prop
  | .call (.createWorkspaceServiceAccount ..) (.ok _) => False
  | _ => True

/-- No token has been created. -/
def IsTokenless : ProvisioningEvent → Prop
  | .call (.createWorkspaceServiceAccountToken ..) (.ok _) => False
  | _ => True

def IsUnanswered : ProvisioningEvent → Prop
  | .call (.respond ..) _ => False
  | _ => True

/-- No deletion has failed. -/
def IsDeleting : ProvisioningEvent → Prop
  | .call (.deleteWorkspaceServiceAccount ..) (.error _) => False
  | .call (.deleteWorkspaceServiceAccountToken ..) (.error _) => False
  | _ => True

theorem IsWork.isUncreating {event : ProvisioningEvent} (h : IsWork event) : IsUncreating event := by
  cases event with
  | note line => exact h.elim
  | call request result =>
      cases request with
      | createWorkspaceServiceAccount => exact h.elim
      | _ => trivial

theorem IsWork.isUnanswered {event : ProvisioningEvent} (h : IsWork event) : IsUnanswered event := by
  cases event with
  | note line => exact h.elim
  | call request result =>
      cases request with
      | respond => exact h.elim
      | _ => trivial

theorem IsWork.isDeleting {event : ProvisioningEvent} (h : IsWork event) : IsDeleting event := by
  cases event with
  | note line => exact h.elim
  | call request result =>
      cases request with
      | deleteWorkspaceServiceAccountToken => exact h.elim
      | deleteWorkspaceServiceAccount => exact h.elim
      | _ => trivial

section Parts

variable {workspaceId serviceAccountId : Str} {tokenId : Option Str}
  {properties : ProvisioningProperties} {allowed : ProvisioningEvent → Prop}

theorem permissionsAsked_le_only (h : ∀ batch result, allowed (.call (.updatePermissions
    properties.workspaceId batch) result)) : permissionsAsked properties ≤ only allowed := by
  rintro _ ⟨result, rfl⟩ event hm
  rw [List.mem_singleton.mp hm]
  exact h _ _

theorem permissionsSet_le_asked : permissionsSet properties ≤ permissionsAsked properties :=
  fun _ ⟨errors, _, hEvents⟩ => ⟨.ok errors, hEvents⟩

/-- A clean-up deals with the token first and with the account last. -/
theorem cleanup_eq_mul : cleaned workspaceId serviceAccountId tokenId +
      uncleaned workspaceId serviceAccountId tokenId =
    (tokenDeleted workspaceId serviceAccountId tokenId + tokenLeft workspaceId serviceAccountId tokenId) *
      (accountDeleted workspaceId serviceAccountId + accountLeft workspaceId serviceAccountId) := by
  rw [cleaned, uncleaned, ← add_assoc, ← mul_add, ← add_mul]

theorem tokenCleanup_le_only (hToken : ∀ result, allowed (.call (tokenDeletion workspaceId
      serviceAccountId tokenId) result)) (hLine : ∀ line, allowed (.note line)) :
    tokenDeleted workspaceId serviceAccountId tokenId +
      tokenLeft workspaceId serviceAccountId tokenId ≤ only allowed := by
  unfold tokenDeleted tokenLeft
  split_ifs
  · exact add_le one_le_only nofun
  · exact add_le (heard_le_only _ _ (hToken _))
      (mul_le_only (refused_le_only _ fun _ => hToken _) (logged_le_only hLine))

/-- A clean-up consists of deletions and lines of the log. -/
theorem cleanup_le_only (hToken : ∀ result, allowed (.call (tokenDeletion workspaceId
      serviceAccountId tokenId) result))
    (hAccount : ∀ result, allowed (.call (accountDeletion workspaceId serviceAccountId) result))
    (hLine : ∀ line, allowed (.note line)) :
    cleaned workspaceId serviceAccountId tokenId + uncleaned workspaceId serviceAccountId tokenId ≤
      only allowed := by
  rw [cleanup_eq_mul]
  refine mul_le_only (tokenCleanup_le_only hToken hLine) (add_le ?_ ?_)
  · exact heard_le_only _ _ (hAccount _)
  · exact mul_le_only (refused_le_only _ fun _ => hAccount _) (logged_le_only hLine)

/-- A clean-up attempts to delete the account, and the token if there is one. -/
theorem cleanup_attempts {events : List ProvisioningEvent}
    (h : events ∈ cleaned workspaceId serviceAccountId tokenId +
      uncleaned workspaceId serviceAccountId tokenId) :
    Attempted (accountDeletion workspaceId serviceAccountId) events ∧
      (isNullOrWhiteSpace tokenId = false →
        Attempted (tokenDeletion workspaceId serviceAccountId tokenId) events) := by
  have hToken {part : List ProvisioningEvent}
      (hPart : part ∈ tokenDeleted workspaceId serviceAccountId tokenId +
        tokenLeft workspaceId serviceAccountId tokenId)
      (hThere : isNullOrWhiteSpace tokenId = false) :
      Attempted (tokenDeletion workspaceId serviceAccountId tokenId) part := by
    unfold tokenDeleted tokenLeft at hPart
    rw [hThere] at hPart
    rcases hPart with hDeleted | ⟨_, hRefused, _, _, rfl⟩
    · exact attempted_of_heard hDeleted
    · exact (attempted_of_refused hRefused).append_right _
  have hAccount {part : List ProvisioningEvent}
      (hPart : part ∈ accountDeleted workspaceId serviceAccountId +
        accountLeft workspaceId serviceAccountId) :
      Attempted (accountDeletion workspaceId serviceAccountId) part := by
    rcases hPart with hDeleted | ⟨_, hRefused, _, _, rfl⟩
    · exact attempted_of_heard hDeleted
    · exact (attempted_of_refused hRefused).append_right _
  rw [cleanup_eq_mul] at h
  obtain ⟨first, hFirst, second, hSecond, rfl⟩ := h
  exact ⟨(hAccount hSecond).append_left _, fun hThere => (hToken hFirst hThere).append_right _⟩

section Provisioning

variable {World : Type} {host : Host World}

/-- What happens between a created account and the end withdraws it, if nothing
else has been created. -/
theorem abandoned_withdraws {account : ServiceAccount} {events : List ProvisioningEvent}
    (h : events ∈ host.abandoned properties account) :
    Attempted (.deleteWorkspaceServiceAccount properties.workspaceId account.id) events ∧
      ∀ name seconds token, .call (.createWorkspaceServiceAccountToken properties.workspaceId
          account.id name seconds) (.ok token) ∈ events → isBlank token.id = false →
        Attempted (.deleteWorkspaceServiceAccountToken properties.workspaceId account.id token.id)
          events := by
  have hTokenless (tokenId : Option Str) : cleaned properties.workspaceId account.id tokenId +
      uncleaned properties.workspaceId account.id tokenId ≤ only IsTokenless :=
    cleanup_le_only (fun _ => trivial) (fun _ => trivial) fun _ => trivial
  rcases h with ⟨first, hRefused, ending, hEnding, rfl⟩ | h
  · refine ⟨(cleanup_attempts hEnding).1.append_left _, fun name seconds token hm _ => ?_⟩
    obtain ⟨error, rfl⟩ := hRefused
    rcases List.mem_append.mp hm with hm | hm
    · cases List.mem_singleton.mp hm
    · exact (hTokenless none hEnding _ hm).elim
  · obtain ⟨token, work, ⟨first, rfl, steps, hSteps, rfl⟩, ending, hEnding, rfl⟩ := Language.mem_iSup.mp h
    obtain ⟨hAccount, hToken⟩ := cleanup_attempts hEnding
    refine ⟨hAccount.append_left _, fun name seconds token' hm hThere => ?_⟩
    rcases List.mem_append.mp hm with hm | hm
    · rcases List.mem_append.mp hm with hm | hm
      · cases List.mem_singleton.mp hm
        exact (hToken hThere).append_left _
      · exact (hSteps _ hm).elim
    · exact (hTokenless _ hEnding _ hm).elim

theorem abandoned_le_only {allowed : ProvisioningEvent → Prop} (account : ServiceAccount)
    (hRequest : ∀ result, allowed (.call (host.tokenRequest properties account.id) result))
    (hWork : ∀ event, IsWork event → allowed event)
    (hToken : ∀ tokenId result, allowed (.call (.deleteWorkspaceServiceAccountToken
      properties.workspaceId account.id tokenId) result))
    (hAccount : ∀ result, allowed (.call (accountDeletion properties.workspaceId account.id) result))
    (hLine : ∀ line, allowed (.note line)) :
    host.abandoned properties account ≤ only allowed := by
  have hCleanup (tokenId : Option Str) : cleaned properties.workspaceId account.id tokenId +
      uncleaned properties.workspaceId account.id tokenId ≤ only allowed :=
    cleanup_le_only (hToken _) hAccount hLine
  refine add_le (mul_le_only (refused_le_only _ fun _ => hRequest _) (hCleanup none))
    (iSup_le fun token => mul_le_only (mul_le_only (heard_le_only _ _ (hRequest _)) ?_) (hCleanup _))
  exact only_mono hWork

/-- A failed provisioning withdraws what it has created. -/
theorem failed_withdraws {events : List ProvisioningEvent}
    (h : events ∈ host.failed properties) : Withdrawn events := by
  intro workspaceId name role account hCreated
  have hAsked : permissionsAsked properties ≤ only IsUncreating :=
    permissionsAsked_le_only fun _ _ => trivial
  have hTokenless : permissionsAsked properties ≤ only IsTokenless :=
    permissionsAsked_le_only fun _ _ => trivial
  have hSet := permissionsSet_le_asked.trans hAsked
  rcases h with (hm | ⟨first, hFirst, second, ⟨error, rfl⟩, rfl⟩) | h
  · exact (hAsked hm _ hCreated).elim
  · rcases List.mem_append.mp hCreated with hCreated | hCreated
    · exact (hSet hFirst _ hCreated).elim
    · cases List.mem_singleton.mp hCreated
  obtain ⟨account', before, ⟨first, hFirst, _, rfl, rfl⟩, after, hAfter, rfl⟩ := Language.mem_iSup.mp h
  have hUncreating : host.abandoned properties account' ≤ only IsUncreating :=
    abandoned_le_only account' (fun _ => trivial) (fun _ hWork => hWork.isUncreating)
      (fun _ _ => trivial) (fun _ => trivial) fun _ => trivial
  have hSame : .call (.createWorkspaceServiceAccount workspaceId name role) (.ok account) =
      (.call (accountRequest properties) (.ok account') : ProvisioningEvent) := by
    rcases List.mem_append.mp hCreated with hCreated | hCreated
    · rcases List.mem_append.mp hCreated with hCreated | hCreated
      · exact (hSet hFirst _ hCreated).elim
      · exact List.mem_singleton.mp hCreated
    · exact (hUncreating hAfter _ hCreated).elim
  cases hSame
  obtain ⟨hAccount, hToken⟩ := abandoned_withdraws hAfter
  refine ⟨hAccount.append_left _, fun name seconds token hm hThere => ?_⟩
  refine (hToken name seconds token ?_ hThere).append_left _
  rcases List.mem_append.mp hm with hm | hm
  · rcases List.mem_append.mp hm with hm | hm
    · exact ((permissionsSet_le_asked.trans hTokenless) hFirst _ hm).elim
    · cases List.mem_singleton.mp hm
  · exact hm

/-- A complete provisioning is one that could still have failed in the end. -/
theorem complete_le_failed : host.complete properties ≤ host.failed properties := by
  refine iSup_le fun account => iSup_le fun token => ?_
  exact broken_le_failed account token (configured_le_works token.key properties host) le_self_add

/-- A provisioning does not answer. -/
theorem failed_le_unanswered : host.failed properties ≤ only IsUnanswered := by
  have hAsked : permissionsAsked properties ≤ only IsUnanswered :=
    permissionsAsked_le_only fun _ _ => trivial
  have hSet := permissionsSet_le_asked.trans hAsked
  refine add_le (add_le hAsked (mul_le_only hSet (refused_le_only _ fun _ => trivial)))
    (iSup_le fun account => mul_le_only (mul_le_only hSet (heard_le_only _ _ trivial)) ?_)
  exact abandoned_le_only account (fun _ => trivial) (fun _ hWork => hWork.isUnanswered)
    (fun _ _ => trivial) (fun _ => trivial) fun _ => trivial

/-- In a complete provisioning no deletion has failed. -/
theorem complete_le_deleting : host.complete properties ≤ only IsDeleting := by
  refine iSup_le fun account => iSup_le fun token => ?_
  refine mul_le_only (mul_le_only (mul_le_only (mul_le_only ?_ (heard_le_only _ _ trivial))
    (heard_le_only _ _ trivial)) ?_) (mul_le_only ?_ (heard_le_only _ _ trivial))
  · exact permissionsSet_le_asked.trans (permissionsAsked_le_only fun _ _ => trivial)
  · exact (configured_le_works token.key properties host).trans
      (only_mono fun _ hWork => hWork.isDeleting)
  · unfold tokenDeleted
    split_ifs
    · exact one_le_only
    · exact heard_le_only _ _ trivial

theorem not_answered_of_failed {events : List ProvisioningEvent} {status : Status}
    (h : events ∈ host.failed properties) : ¬Answered status events :=
  fun ⟨_, _, _, _, hm⟩ => failed_le_unanswered h _ hm

theorem not_success_of_reported {events : List ProvisioningEvent} (h : events ∈ reported) :
    ¬Answered .success events := by
  obtain ⟨_, ⟨line, rfl⟩, last, hLast, rfl⟩ := h
  rintro ⟨url, response, result, hStatus, hm⟩
  rcases List.mem_append.mp hm with hm | hm
  · cases List.mem_singleton.mp hm
  rcases hLast with rfl | ⟨url', response', result', hFailed, rfl⟩
  · cases hm
  · cases List.mem_singleton.mp hm
    cases hStatus.symm.trans hFailed

theorem Answered.of_append {first second : List ProvisioningEvent} {status : Status}
    (h : Answered status (first ++ second)) : Answered status first ∨ Answered status second := by
  obtain ⟨url, response, result, hStatus, hm⟩ := h
  rcases List.mem_append.mp hm with hm | hm
  · exact Or.inl ⟨url, response, result, hStatus, hm⟩
  · exact Or.inr ⟨url, response, result, hStatus, hm⟩

/-- SUCCESS is sent after a complete provisioning only. -/
theorem complete_of_success {request : Json} {events : List ProvisioningEvent}
    (h : events ∈ host.upserted request) (hSuccess : Answered .success events) :
    ∃ properties, resourceProperties request = .ok properties ∧
      events ∈ host.complete properties * (responded .success * (1 + reported)) := by
  rcases h with ⟨properties, hProperties, h⟩ | ⟨first, hFirst, second, hSecond, rfl⟩
  · have hLe : host.complete properties * responded .success ≤
        host.complete properties * (responded .success * (1 + reported)) :=
      mul_le_mul' (le_refl _) (le_trans (mul_one _).ge (mul_le_mul' (le_refl _) le_self_add))
    exact ⟨properties, hProperties, hLe h⟩
  have hFirstSuccess := hSuccess.of_append.resolve_right (not_success_of_reported hSecond)
  rcases hFirst with rfl | ⟨properties, hProperties, hFailed | ⟨done, hDone, sent, hSent, rfl⟩⟩
  · obtain ⟨_, _, _, _, hm⟩ := hFirstSuccess
    cases hm
  · exact (not_answered_of_failed hFailed hFirstSuccess).elim
  rcases hSent with rfl | hSent
  · change Answered .success (done ++ []) at hFirstSuccess
    rw [List.append_nil] at hFirstSuccess
    exact (not_answered_of_failed (complete_le_failed hDone) hFirstSuccess).elim
  · refine ⟨properties, hProperties, done, hDone, sent ++ second, ?_, (List.append_assoc _ _ _).symm⟩
    exact Language.append_mem_mul hSent (Or.inr hSecond)

/-- What is said after a provisioning withdraws nothing and creates nothing. -/
theorem Withdrawn.append_answers {first second : List ProvisioningEvent} (h : Withdrawn first)
    (hAnswers : second ∈ only IsAnswer) : Withdrawn (first ++ second) := by
  intro workspaceId name role account hCreated
  rcases List.mem_append.mp hCreated with hCreated | hCreated
  · obtain ⟨hAccount, hToken⟩ := h workspaceId name role account hCreated
    refine ⟨hAccount.append_right _, fun name seconds token hm hThere => ?_⟩
    rcases List.mem_append.mp hm with hm | hm
    · exact (hToken name seconds token hm hThere).append_right _
    · exact (hAnswers _ hm).elim
  · exact (hAnswers _ hCreated).elim

theorem withdrawn_nil : Withdrawn [] := nofun

/-- Whatever fails, what was created is withdrawn. -/
theorem upserted_withdraws {request : Json} {events : List ProvisioningEvent}
    (h : events ∈ host.upserted request) : Withdrawn events := by
  have hResponded (status : Status) : responded status ≤ only IsAnswer :=
    responded_le_only status fun _ _ _ => trivial
  rcases h with ⟨properties, _, done, hDone, sent, hSent, rfl⟩ | ⟨first, hFirst, second, hSecond, rfl⟩
  · exact (failed_withdraws (complete_le_failed hDone)).append_answers (hResponded _ hSent)
  refine Withdrawn.append_answers ?_ (reported_le_answers hSecond)
  rcases hFirst with rfl | ⟨properties, _, hFailed | ⟨done, hDone, sent, hSent, rfl⟩⟩
  · exact withdrawn_nil
  · exact failed_withdraws hFailed
  · exact (failed_withdraws (complete_le_failed hDone)).append_answers
      (add_le one_le_only (hResponded _) hSent)

theorem IsAnswer.isDeleting {event : ProvisioningEvent} (h : IsAnswer event) : IsDeleting event := by
  cases event with
  | note line => trivial
  | call request result =>
      cases request with
      | deleteWorkspaceServiceAccountToken => exact h.elim
      | deleteWorkspaceServiceAccount => exact h.elim
      | _ => trivial

end Provisioning

end Parts

/-- SUCCESS is sent for a Create or Update request only after a provisioning in
which every step succeeded and the credentials were removed. Whichever step
fails, what was created is withdrawn, and if that fails SUCCESS is not sent. -/
theorem Host.success_complete {World : Type} (host : Host World) {input : Str} {request : Json}
    (w : World) (hParse : host.parse input = .ok request) (hType : Upserts request) :
    (Answered .success (host.events input w) →
      ∃ properties, resourceProperties request = .ok properties ∧ ∃ done ∈ host.complete properties,
        ∃ rest ∈ responded .success * (1 + reported), host.events input w = done ++ rest) ∧
    Withdrawn (host.events input w) ∧
    ∀ workspaceId serviceAccountId error,
      .call (.deleteWorkspaceServiceAccount workspaceId serviceAccountId) (.error error) ∈
          host.events input w ∨
        (∃ tokenId, .call (.deleteWorkspaceServiceAccountToken workspaceId serviceAccountId tokenId)
          (.error error) ∈ host.events input w) →
      ¬Answered .success (host.events input w) := by
  have hEvents := (events_upserted w hParse hType).1
  refine ⟨fun hSuccess => ?_, upserted_withdraws hEvents, fun workspaceId serviceAccountId error hLeft
    hSuccess => ?_⟩
  · obtain ⟨properties, hProperties, done, hDone, rest, hRest, hSame⟩ :=
      complete_of_success hEvents hSuccess
    exact ⟨properties, hProperties, done, hDone, rest, hRest, hSame.symm⟩
  · obtain ⟨properties, _, hComplete⟩ := complete_of_success hEvents hSuccess
    have hDeleting : host.complete properties * (responded .success * (1 + reported)) ≤
        only IsDeleting :=
      mul_le_only complete_le_deleting
        (success_le_answers.trans (only_mono fun _ hAnswer => hAnswer.isDeleting))
    rcases hLeft with hLeft | ⟨tokenId, hLeft⟩
    · exact hDeleting hComplete _ hLeft
    · exact hDeleting hComplete _ hLeft

section Example

/-- A JSON object of strings, as a document and as its text. -/
def exampleObject (members : List (Str × Str)) : Json :=
  .object (members.map fun member => (member.1, .string member.2))

def exampleMember (member : Str × Str) : Str :=
  "\"".toList ++ member.1 ++ "\":\"".toList ++ member.2 ++ "\"".toList

def exampleText (members : List (Str × Str)) : Str :=
  "\x7b".toList ++ List.intercalate ",".toList (members.map exampleMember) ++ "\x7d".toList

def exampleProperties : List (Str × Str) :=
  [("WorkspaceId".toList, ['w']), ("WorkspaceEndpoint".toList, ['e']),
    ("AdminGroupId".toList, ['a']), ("EditorGroupId".toList, ['b']),
    ("ViewerGroupId".toList, ['c']), ("AnalyticsBucketName".toList, ['s']),
    ("DatabaseName".toList, ['d']), ("WorkGroupName".toList, ['g']), ("Region".toList, ['r']),
    ("FleetDashboardAssetBucket".toList, ['k']), ("FleetDashboardAssetKey".toList, ['f']),
    ("UserDrilldownDashboardAssetBucket".toList, ['k']),
    ("UserDrilldownDashboardAssetKey".toList, ['u']), ("FleetDashboardUid".toList, ['f']),
    ("UserDrilldownDashboardUid".toList, ['u'])]

/-- The members of a request besides its properties. -/
def exampleFields (requestType : Str) : List (Str × Str) :=
  [("RequestType".toList, requestType), ("ResponseURL".toList, ['h']), ("StackId".toList, ['s']),
    ("RequestId".toList, ['i']), ("LogicalResourceId".toList, ['l'])]

def exampleRequest (requestType : Str) : Json :=
  .object ((exampleFields requestType).map (fun member => (member.1, .string member.2)) ++
    [("ResourceProperties".toList, exampleObject exampleProperties)])

def exampleInput (requestType : Str) : Str :=
  "\x7b".toList ++ List.intercalate ",".toList ((exampleFields requestType).map exampleMember ++
    ["\"ResourceProperties\":".toList ++ exampleText exampleProperties]) ++ "\x7d".toList

def exampleHealth : List (Str × Str) := [("status".toList, "OK".toList)]

/-- The asset of a dashboard under a key. Its uid is the key. -/
def exampleDashboard (key : Str) : List (Str × Str) := [("uid".toList, key)]

/-- The texts that are read in the examples. -/
def exampleTexts : List (Str × Json) :=
  [(exampleInput "Create".toList, exampleRequest "Create".toList),
    (exampleInput "Delete".toList, exampleRequest "Delete".toList),
    (exampleText exampleHealth, exampleObject exampleHealth),
    (exampleText (exampleDashboard ['f']), exampleObject (exampleDashboard ['f'])),
    (exampleText (exampleDashboard ['u']), exampleObject (exampleDashboard ['u']))]

def exampleParse (text : Str) : Except Exn Json :=
  match exampleTexts.find? (·.1 == text) with
  | some (_, json) => .ok json
  | none => .error ⟨"JsonReaderException".toList, []⟩

/-- Services that never fail. -/
def exampleServices : Services Request Reply Unit Exn
  | .updatePermissions .., w => (.ok none, w)
  | .createWorkspaceServiceAccount .., w => (.ok ⟨['a']⟩, w)
  | .createWorkspaceServiceAccountToken .., w => (.ok ⟨['t'], ['k']⟩, w)
  | .deleteWorkspaceServiceAccountToken .., w => (.ok (), w)
  | .deleteWorkspaceServiceAccount .., w => (.ok (), w)
  | .send _, w => (.ok ⟨200, exampleText exampleHealth⟩, w)
  | .getObject _ key, w => (.ok (exampleText (exampleDashboard key)), w)
  | .respond .., w => (.ok 200, w)
  | .elapsed, w => (.ok 0, w)
  | .delay _, w => (.ok (), w)

def exampleHost : Host Unit where
  awsRequestId := ['x']
  registrationDelays := 24
  parse := exampleParse
  services := exampleServices
  deliver := fun _ _ => ⟨true, .ok 200⟩

theorem exampleParse_create : exampleHost.parse (exampleInput "Create".toList) =
    .ok (exampleRequest "Create".toList) := by
  have hFound : exampleTexts.find? (·.1 == exampleInput "Create".toList) =
      some (exampleInput "Create".toList, exampleRequest "Create".toList) :=
    List.find?_cons_of_pos (beq_self_eq_true _)
  rw [show exampleHost.parse = exampleParse from rfl, exampleParse, hFound]

theorem exampleParse_delete : exampleHost.parse (exampleInput "Delete".toList) =
    .ok (exampleRequest "Delete".toList) := by
  have hFound : exampleTexts.find? (·.1 == exampleInput "Delete".toList) =
      some (exampleInput "Delete".toList, exampleRequest "Delete".toList) := by
    have hOther : (exampleInput "Create".toList == exampleInput "Delete".toList) = false := by
      decide
    exact (List.find?_cons_of_neg (by rw [hOther]; exact nofun)).trans
      (List.find?_cons_of_pos (beq_self_eq_true _))
  rw [show exampleHost.parse = exampleParse from rfl, exampleParse, hFound]

theorem exampleRequest_upserts : Upserts (exampleRequest "Create".toList) := Or.inl rfl

set_option maxRecDepth 20000 in
/-- SUCCESS is sent, and so the transcript is complete. -/
theorem success_complete_example :
    Answered .success (exampleHost.events (exampleInput "Create".toList) ()) ∧
    (Answered .success (exampleHost.events (exampleInput "Create".toList) ()) →
      ∃ properties, resourceProperties (exampleRequest "Create".toList) = .ok properties ∧
        ∃ done ∈ exampleHost.complete properties, ∃ rest ∈ responded .success * (1 + reported),
          exampleHost.events (exampleInput "Create".toList) () = done ++ rest) := by
  refine ⟨answered_of_any (by decide), ?_⟩
  exact (exampleHost.success_complete () exampleParse_create exampleRequest_upserts).1

end Example

end KiroGrafanaProvisioner
