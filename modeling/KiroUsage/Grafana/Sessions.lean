import KiroUsage.Grafana.Workspace
import KiroUsage.Grafana.Credentials
import KiroUsage.Semantics.Confinement

/-! Every request of an invocation, also of one that fails. Until it has a token the
provisioner talks to Managed Grafana only; with the token it makes a fixed set of
requests of the workspace it was given; after that it removes its credentials and
answers. -/
namespace KiroGrafanaProvisioner

open Text Execution
open KiroIngest (Json)

variable (properties : ProvisioningProperties)

/-- The requests that an invocation with these properties makes of the workspace, with
the key of its token. -/
def Issues (token : Str) (request : GrafanaRequest) : Prop :=
  request ∈ [createFolder properties.workspaceEndpoint token,
    getFolder properties.workspaceEndpoint token, getPluginSettings properties.workspaceEndpoint token,
    installPlugin properties.workspaceEndpoint token, getDataSource properties.workspaceEndpoint token,
    putDataSource token properties, postDataSource token properties,
    getHealth properties.workspaceEndpoint token] ∨
  ∃ dashboard uid, requiredString dashboard "uid".toList = .ok uid ∧
    (uid = properties.fleetDashboardUid ∨ uid = properties.userDrilldownDashboardUid) ∧
    request = postDashboard properties.workspaceEndpoint token dashboard

/-- The assets that an invocation with these properties reads. -/
def ProvisioningProperties.assets : List (Str × Str) :=
  [(properties.fleetDashboardAssetBucket, properties.fleetDashboardAssetKey),
    (properties.userDrilldownDashboardAssetBucket, properties.userDrilldownDashboardAssetKey)]

/-- What is done with a token. -/
def WorksWith (token : Str) : ProvisioningEvent → Prop
  | .call (.send request) _ => Issues properties token request
  | .call (.getObject bucketName key) _ => (bucketName, key) ∈ properties.assets
  | .call .elapsed _ => True
  | .call (.delay seconds) _ => seconds = 10
  | _ => False

/-- What is done before there is a service account. -/
def Prepares : ProvisioningEvent → Prop
  | .call (.updatePermissions workspaceId batch) _ =>
    workspaceId = properties.workspaceId ∧ batch = properties.instructions
  | .call (.createWorkspaceServiceAccount workspaceId name role) result =>
    workspaceId = properties.workspaceId ∧ name = serviceAccountName ∧ role = .admin ∧
      result.toOption.isNone = true
  | _ => False

/-- What is done at the end: an account and its token, if it has one, are removed,
failures are logged, responses are sent. -/
def Finishes (serviceAccountId : Str) (tokenId : Option Str) : ProvisioningEvent → Prop
  | .call (.deleteWorkspaceServiceAccountToken workspaceId accountId id) _ =>
    workspaceId = properties.workspaceId ∧ accountId = serviceAccountId ∧ tokenId = some id
  | .call (.deleteWorkspaceServiceAccount workspaceId accountId) _ =>
    workspaceId = properties.workspaceId ∧ accountId = serviceAccountId
  | .call (.respond ..) _ => True
  | .note _ => True
  | _ => False

namespace Host

variable {World : Type} (host : Host World)

/-- The events up to the service account. -/
def opened (account : ServiceAccount) : Language ProvisioningEvent :=
  only (Prepares properties) * heard (accountRequest properties) account

/-- What is done with an account: its token, if it is given one, is worked with and
removed in the end. -/
def worked (account : ServiceAccount) : Language ProvisioningEvent :=
  refused (host.tokenRequest properties account.id) * only (Finishes properties account.id none) +
    ⨆ token : ServiceAccountToken, heard (host.tokenRequest properties account.id) token *
      only (WorksWith properties token.key) * only (Finishes properties account.id (some token.id))

/-- The events of one invocation, with a service account or without one. -/
def session : Language ProvisioningEvent :=
  only (Prepares properties) * only IsAnswer +
    ⨆ account : ServiceAccount, opened properties account * host.worked properties account

end Host

section Steps

variable {properties} {World : Type} {host : Host World} {token : Str}

theorem issues_of_mem {request : GrafanaRequest}
    (h : request ∈ [createFolder properties.workspaceEndpoint token,
      getFolder properties.workspaceEndpoint token,
      getPluginSettings properties.workspaceEndpoint token,
      installPlugin properties.workspaceEndpoint token,
      getDataSource properties.workspaceEndpoint token, putDataSource token properties,
      postDataSource token properties, getHealth properties.workspaceEndpoint token]) :
    Issues properties token request :=
  Or.inl h

theorem grafanaCallAsync_confined {allowed : ProvisioningEvent → Prop} {endpoint : Str}
    {method : HttpMethod} {path : Str} {payload : Option Json} {statusCodes : List Nat}
    (h : ∀ result, allowed (.call (.send (grafanaRequest endpoint token method path payload)) result)) :
    Confined host.answers allowed
      (host.grafanaCallAsync endpoint token method path payload statusCodes) := by
  apply (Confined.exchange h).bind
  intro reply
  split_ifs
  · exact .done _
  · exact .throwing _

theorem ensureFolderAsync_confined :
    Confined host.answers (WorksWith properties token)
      (host.ensureFolderAsync properties.workspaceEndpoint token) := by
  apply (grafanaCallAsync_confined fun _ => issues_of_mem (by simp [createFolder])).bind
  intro reply
  split_ifs
  · apply (grafanaCallAsync_confined fun _ => issues_of_mem (by simp [getFolder])).bind
    exact fun _ => .done _
  · exact .done _

theorem grafanaResourceExistsAsync_confined {allowed : ProvisioningEvent → Prop} {endpoint path : Str}
    (h : ∀ result, allowed (.call (.send (grafanaRequest endpoint token .get path none)) result)) :
    Confined host.answers allowed (host.grafanaResourceExistsAsync endpoint token path) :=
  (grafanaCallAsync_confined h).bind fun _ => .done _

theorem ensureAthenaPluginAsync_confined :
    Confined host.answers (WorksWith properties token)
      (host.ensureAthenaPluginAsync properties.workspaceEndpoint token) := by
  apply (grafanaResourceExistsAsync_confined fun _ => issues_of_mem (by simp [getPluginSettings])).bind
  intro present
  split_ifs
  · exact .done _
  · apply (grafanaCallAsync_confined fun _ => issues_of_mem (by simp [installPlugin])).bind
    exact fun _ => .done _

theorem upsertAthenaDataSourceAsync_confined :
    Confined host.answers (WorksWith properties token)
      (host.upsertAthenaDataSourceAsync properties token) := by
  apply (grafanaResourceExistsAsync_confined fun _ => issues_of_mem (by simp [getDataSource])).bind
  intro present
  split_ifs
  · apply (grafanaCallAsync_confined fun _ => issues_of_mem (by simp [putDataSource])).bind
    exact fun _ => .done _
  · apply (grafanaCallAsync_confined fun _ => issues_of_mem (by simp [postDataSource])).bind
    exact fun _ => .done _

theorem pollHealth_confined (delays : Nat) :
    Confined host.answers (WorksWith properties token)
      (host.pollHealth properties.workspaceEndpoint token delays) := by
  have hPoll : Confined host.answers (WorksWith properties token)
      (host.grafanaCallAsync properties.workspaceEndpoint token .get healthPath none [200, 404]) :=
    grafanaCallAsync_confined fun _ => issues_of_mem (by simp [getHealth])
  induction delays with
  | zero =>
      apply hPoll.bind
      intro reply
      split_ifs
      · exact .throwing _
      · exact .ofExcept _
  | succ delays ih =>
      apply hPoll.bind
      intro reply
      split_ifs
      · apply Confined.bind (Confined.exchange fun _ => trivial)
        intro elapsed
        by_cases hTimeout : elapsed ≥ registrationTimeout
        · rw [if_pos hTimeout]
          exact .throwing _
        · rw [if_neg hTimeout]
          exact Confined.bind (Confined.exchange fun _ => rfl) fun _ => ih
      · exact .ofExcept _

/-- A dashboard is stored under the expected uid only. -/
theorem upsertDashboardAsync_confined {dashboardJson expectedUid : Str}
    (h : expectedUid = properties.fleetDashboardUid ∨
      expectedUid = properties.userDrilldownDashboardUid) :
    Confined host.answers (WorksWith properties token)
      (host.upsertDashboardAsync properties.workspaceEndpoint token dashboardJson expectedUid) := by
  apply Confined.ofExcept_bind
  intro dashboard hDashboard
  have hUid := uid_of_rendered hDashboard
  apply (grafanaCallAsync_confined fun _ => Or.inr ⟨dashboard, expectedUid, hUid, h, rfl⟩).bind
  exact fun _ => .done _

theorem readAssetAsync_confined {bucketName key : Str} (h : (bucketName, key) ∈ properties.assets) :
    Confined host.answers (WorksWith properties token) (host.readAssetAsync bucketName key) :=
  Confined.exchange fun _ => h

theorem configureAsync_confined :
    Confined host.answers (WorksWith properties token) (host.configureAsync properties token) := by
  apply ensureFolderAsync_confined.bind
  intro _
  apply ensureAthenaPluginAsync_confined.bind
  intro _
  apply upsertAthenaDataSourceAsync_confined.bind
  intro _
  apply (pollHealth_confined host.registrationDelays).bind
  intro _
  apply (readAssetAsync_confined List.mem_cons_self).bind
  intro fleetDashboard
  apply (readAssetAsync_confined (List.mem_cons_of_mem _ List.mem_cons_self)).bind
  intro userDrilldownDashboard
  apply (upsertDashboardAsync_confined (Or.inl rfl)).bind
  intro _
  apply (upsertDashboardAsync_confined (Or.inr rfl)).bind
  exact fun _ => .done _

theorem setWorkspacePermissionsAsync_confined :
    Confined host.answers (Prepares properties) (host.setWorkspacePermissionsAsync properties) := by
  apply Confined.bind (Confined.exchange fun _ => ⟨rfl, rfl⟩)
  intro errors
  dsimp only
  split_ifs
  · exact .throwing _
  · exact .done _

theorem tryDeletion_confined {serviceAccountId : Str} {tokenId : Option Str}
    {deletion : Provisioning World Unit} {line : Exn → LogLine}
    (h : Confined host.answers (Finishes properties serviceAccountId tokenId) deletion) :
    Confined host.answers (Finishes properties serviceAccountId tokenId)
      (Host.tryDeletion deletion line) := by
  apply (h.bind fun _ => .done none).catching
  exact fun error => (Confined.note trivial).bind fun _ => .done _

theorem deleteEphemeralCredentialsAsync_confined (serviceAccountId : Str) (tokenId : Option Str) :
    Confined host.answers (Finishes properties serviceAccountId tokenId)
      (host.deleteEphemeralCredentialsAsync properties.workspaceId serviceAccountId tokenId) := by
  have hToken : Confined host.answers (Finishes properties serviceAccountId tokenId)
      (host.tryDeleteToken properties.workspaceId serviceAccountId tokenId) := by
    cases tokenId with
    | none => exact .done _
    | some id =>
        unfold Host.tryDeleteToken
        split_ifs
        · exact .done _
        · exact tryDeletion_confined (Confined.exchange fun _ => ⟨rfl, rfl, rfl⟩)
  apply hToken.bind
  intro tokenFailure
  apply (tryDeletion_confined (Confined.exchange fun _ => ⟨rfl, rfl⟩)).bind
  intro accountFailure
  split_ifs
  · exact .throwing _
  · exact .done _

theorem respondAsync_confined {request : Json} {status : Status} {physicalResourceId : Str}
    {data : Option (List (Str × Str))} {reason : Option Str} :
    Confined host.answers IsAnswer
      (host.respondAsync request status physicalResourceId data reason) := by
  unfold Host.respondAsync
  apply Confined.ofExcept_bind
  intro responseUrl _
  apply Confined.ofExcept_bind
  intro stackId _
  apply Confined.ofExcept_bind
  intro requestId _
  apply Confined.ofExcept_bind
  intro logicalResourceId _
  apply Confined.bind (Confined.exchange fun _ => trivial)
  intro statusCode
  by_cases hSuccess : 200 ≤ statusCode ∧ statusCode ≤ 299
  · rw [if_pos hSuccess]
    exact .done _
  · rw [if_neg hSuccess]
    exact .throwing _

theorem IsAnswer.finishes {event : ProvisioningEvent} (h : IsAnswer event) (serviceAccountId : Str)
    (tokenId : Option Str) : Finishes properties serviceAccountId tokenId event := by
  cases event with
  | note line => trivial
  | call request result =>
      cases request with
      | respond responseUrl response => trivial
      | _ => exact h.elim

/-- A session without a service account. -/
theorem prepared_le_session : only (Prepares properties) * only IsAnswer ≤ host.session properties :=
  le_self_add

theorem prepares_le_session : only (Prepares properties) ≤ host.session properties :=
  le_trans (le_of_eq (mul_one _).symm) (le_trans (mul_le_mul' (le_refl _) one_le_only)
    prepared_le_session)

theorem answers_le_session : only IsAnswer ≤ host.session properties :=
  le_trans (le_of_eq (one_mul _).symm) (le_trans (mul_le_mul' one_le_only (le_refl _))
    prepared_le_session)

/-- A session with a service account. -/
theorem opened_le_session (account : ServiceAccount) {work : Language ProvisioningEvent}
    (h : work ≤ host.worked properties account) :
    Host.opened properties account * work ≤ host.session properties := by
  refine le_trans (mul_le_mul' (le_refl _) h) ?_
  refine le_trans ?_ le_add_self
  exact le_iSup_of_le account (le_refl _)

theorem token_le_worked (account : ServiceAccount) (issued : ServiceAccountToken) :
    heard (host.tokenRequest properties account.id) issued * only (WorksWith properties issued.key) *
      only (Finishes properties account.id (some issued.id)) ≤ host.worked properties account := by
  refine le_trans ?_ le_add_self
  exact le_iSup_of_le issued (le_refl _)

/-- A provisioning, whether it returns or throws. -/
theorem provisionAsync_session :
    Tells host.answers 1 (host.provisionAsync properties) (fun _ => host.session properties)
      (host.session properties) := by
  unfold Host.provisionAsync
  apply Tells.bind (fun _ => only (Prepares properties))
    (setWorkspacePermissionsAsync_confined.weaken (fun _ => le_refl _) prepares_le_session)
  intro _
  have hRefused : only (Prepares properties) * refused (accountRequest properties) ≤
      only (Prepares properties) :=
    mul_le_only (le_refl _) (refused_le_only _ fun _ => ⟨rfl, rfl, rfl, rfl⟩)
  apply Tells.bind (fun account => Host.opened properties account)
    (((Tells.exchange (accountRequest properties)).frame _).weaken (fun _ => le_refl _)
      (le_trans hRefused prepares_le_session))
  intro account
  have hCleanup (before : Language ProvisioningEvent) (tokenId : Option Str) :
      Tells host.answers before (host.deleteEphemeralCredentialsAsync properties.workspaceId account.id
        tokenId) (fun _ => before * only (Finishes properties account.id tokenId))
        (before * only (Finishes properties account.id tokenId)) :=
    Tells.frame (deleteEphemeralCredentialsAsync_confined account.id tokenId) before
  have hUnserved : Host.opened properties account * refused (host.tokenRequest properties account.id) *
      only (Finishes properties account.id none) ≤ host.session properties := by
    rw [mul_assoc]
    exact opened_le_session account le_self_add
  have hWorked (token : ServiceAccountToken) : Host.opened properties account *
      heard (host.tokenRequest properties account.id) token * only (WorksWith properties token.key) *
        only (Finishes properties account.id (some token.id)) ≤ host.session properties := by
    rw [mul_assoc (Host.opened properties account), mul_assoc (Host.opened properties account)]
    exact opened_le_session account (token_le_worked account token)
  apply Tells.finallyWith ((Tells.exchange (host.tokenRequest properties account.id)).frame _)
    (fun token => Tells.frame configureAsync_confined _)
  · exact (hCleanup _ none).weaken (fun _ => hUnserved) hUnserved
  · intro token result
    exact (hCleanup _ (some token.id)).weaken (fun _ => hWorked token) (hWorked token)
  · intro token
    exact (hCleanup _ (some token.id)).weaken (fun _ => hWorked token) (hWorked token)

theorem worked_mul_answers (account : ServiceAccount) :
    host.worked properties account * only IsAnswer ≤ host.worked properties account := by
  have hFinishes (tokenId : Option Str) : only (Finishes properties account.id tokenId) *
      only IsAnswer ≤ only (Finishes properties account.id tokenId) :=
    mul_le_only (le_refl _) (only_mono fun _ h => h.finishes _ _)
  rw [Host.worked, add_mul]
  refine add_le ?_ ?_
  · rw [mul_assoc]
    exact le_trans (mul_le_mul' (le_refl _) (hFinishes none)) le_self_add
  · simp only [Language.iSup_mul]
    refine iSup_le fun token => ?_
    rw [mul_assoc]
    exact le_trans (mul_le_mul' (le_refl _) (hFinishes _)) (token_le_worked account token)

/-- Answers may follow a session. -/
theorem session_mul_answers : host.session properties * only IsAnswer ≤ host.session properties := by
  rw [Host.session, add_mul]
  refine add_le ?_ ?_
  · rw [mul_assoc]
    exact le_trans (mul_le_mul' (le_refl _) (mul_le_only (le_refl _) (le_refl _))) le_self_add
  · simp only [Language.iSup_mul]
    refine iSup_le fun account => ?_
    rw [mul_assoc]
    exact opened_le_session account (worked_mul_answers account)

/-- What a Create or Update request tells, if its properties can be read. -/
theorem handleUpsert_session {request : Json} (h : resourceProperties request = .ok properties) :
    Tells host.answers 1 (host.handleUpsert request) (fun _ => host.session properties)
      (host.session properties) := by
  unfold Host.handleUpsert
  rw [h]
  change Tells host.answers 1 (host.provisionAsync properties >>= fun result => _) _ _
  apply Tells.bind _ provisionAsync_session
  intro result
  exact (Tells.frame respondAsync_confined _).weaken (fun _ => session_mul_answers) session_mul_answers

/-- A request of any type whose properties can be read. -/
theorem handleRequest_session {request : Json} (h : resourceProperties request = .ok properties)
    (physicalResourceId : Str) :
    Tells host.answers 1 (host.handleRequest request physicalResourceId)
      (fun _ => host.session properties) (host.session properties) := by
  have hBody : Tells host.answers 1 (host.tryHandle request physicalResourceId)
      (fun _ => host.session properties) (host.session properties) := by
    cases hRequestType : requiredString request "RequestType".toList with
    | error error =>
        unfold Host.tryHandle
        rw [hRequestType]
        exact Tells.throwing error (le_trans one_le_only answers_le_session)
    | ok requestType =>
        rw [tryHandle_of_type hRequestType, Host.handleType]
        split_ifs
        · exact Tells.weaken respondAsync_confined (fun _ => answers_le_session) answers_le_session
        · exact Tells.throwing _ (le_trans one_le_only answers_le_session)
        · exact handleUpsert_session h
  apply Tells.catching (host.session properties) hBody
  intro error
  have hReport : Confined host.answers IsAnswer (do
      Async.note (.provisioningError error)
      host.respondAsync request .failed physicalResourceId none (some error.message)) :=
    (Confined.note trivial).bind fun _ => respondAsync_confined
  exact (Tells.frame hReport _).weaken (fun _ => session_mul_answers) session_mul_answers

/-- A request whose properties cannot be read is at most answered. -/
theorem handleRequest_unreadable {request : Json} {error : Exn}
    (h : resourceProperties request = .error error) (physicalResourceId : Str) :
    Confined host.answers IsAnswer (host.handleRequest request physicalResourceId) := by
  have hBody : Confined host.answers IsAnswer (host.tryHandle request physicalResourceId) := by
    apply Confined.ofExcept_bind
    intro requestType _
    unfold Host.handleType
    split_ifs
    · exact respondAsync_confined
    · exact .throwing _
    · unfold Host.handleUpsert
      rw [h]
      exact .throwing _
  apply hBody.catching
  exact fun error => (Confined.note trivial).bind fun _ => respondAsync_confined

/-- What any invocation tells: an answer, or the session of the properties that it has read. -/
theorem events_session (host : Host World) (input : Str) (w : World) :
    (host.events input w ∈ only IsAnswer ∨ ∃ request properties, host.parse input = .ok request ∧
        resourceProperties request = .ok properties ∧ host.events input w ∈ host.session properties) ∧
      Chain host.answers w (host.events input w) (host.after input w) := by
  have hAnswers {program : Provisioning World Unit} (hEq : host.handleAsync input = program)
      (h : Confined host.answers IsAnswer program) :
      host.events input w ∈ only IsAnswer ∧
        Chain host.answers w (host.events input w) (host.after input w) := by
    apply events_said
    rw [hEq]
    exact h
  cases hParse : host.parse input with
  | error error =>
      have hEq : host.handleAsync input = Async.throwing error := by
        rw [Host.handleAsync, hParse]
        rfl
      obtain ⟨hEvents, hChain⟩ := hAnswers hEq (.throwing error)
      exact ⟨Or.inl hEvents, hChain⟩
  | ok request =>
      cases hId : optionalString request "PhysicalResourceId".toList with
      | error error =>
          have hEq : host.handleAsync input = Async.throwing error := by
            rw [Host.handleAsync, hParse]
            change (Async.ofExcept (optionalString request _) >>= _ : Provisioning World Unit) = _
            rw [hId]
            rfl
          obtain ⟨hEvents, hChain⟩ := hAnswers hEq (.throwing error)
          exact ⟨Or.inl hEvents, hChain⟩
      | ok physicalResourceId =>
          have hEq : host.handleAsync input = host.handleRequest request
              (physicalResourceId.getD "kiro-grafana-provisioning".toList) := by
            rw [Host.handleAsync, hParse]
            change (Async.ofExcept (optionalString request _) >>= _ : Provisioning World Unit) = _
            rw [hId]
            rfl
          cases hProperties : resourceProperties request with
          | error error =>
              obtain ⟨hEvents, hChain⟩ := hAnswers hEq (handleRequest_unreadable hProperties _)
              exact ⟨Or.inl hEvents, hChain⟩
          | ok properties =>
              obtain ⟨hEvents, hChain⟩ := events_said w (hEq ▸ handleRequest_session hProperties _)
              exact ⟨Or.inr ⟨request, properties, rfl, hProperties, hEvents⟩, hChain⟩

end Steps

section Order

variable {properties} {World : Type} {host : Host World} {event : ProvisioningEvent}
  {events before after : List ProvisioningEvent}

/-- A place in two lists is a place in the first, or it follows all of the first. -/
theorem append_split {first second : List ProvisioningEvent}
    (h : first ++ second = before ++ event :: after) :
    (∃ rest, first = before ++ event :: rest) ∨
      ∃ middle, before = first ++ middle ∧ second = middle ++ event :: after := by
  rcases List.append_eq_append_iff.mp h with ⟨middle, hBefore, hSecond⟩ | ⟨rest, hFirst, hRest⟩
  · exact Or.inr ⟨middle, hBefore, hSecond⟩
  · cases rest with
    | nil => exact Or.inr ⟨[], by simpa using hFirst.symm, hRest.symm⟩
    | cons first rest =>
        obtain ⟨rfl, _⟩ := List.cons.inj hRest
        exact Or.inl ⟨rest, hFirst⟩

/-- A credential is removed. -/
def Removes : ProvisioningEvent → Prop
  | .call (.deleteWorkspaceServiceAccountToken ..) _ => True
  | .call (.deleteWorkspaceServiceAccount ..) _ => True
  | _ => False

theorem not_removes_of_prepares (h : Prepares properties event) : ¬Removes event := by
  cases event with
  | note line => exact h.elim
  | call request result =>
      cases request with
      | deleteWorkspaceServiceAccountToken => exact h.elim
      | deleteWorkspaceServiceAccount => exact h.elim
      | _ => exact id

theorem not_removes_of_worksWith {token : Str} (h : WorksWith properties token event) :
    ¬Removes event := by
  cases event with
  | note line => exact h.elim
  | call request result =>
      cases request with
      | deleteWorkspaceServiceAccountToken => exact h.elim
      | deleteWorkspaceServiceAccount => exact h.elim
      | _ => exact id

variable (properties host) in
/-- An event that needs the service account of its invocation. -/
def Served (before : List ProvisioningEvent) (account : ServiceAccount)
    (event : ProvisioningEvent) : Prop :=
  (∃ result, event = .call (host.tokenRequest properties account.id) result) ∨
    (∃ token, .call (host.tokenRequest properties account.id) (.ok token) ∈ before ∧
      WorksWith properties token.key event ∧ ∀ other ∈ before, ¬Removes other) ∨
    ∃ tokenId, (∀ id ∈ tokenId, ∃ token : ServiceAccountToken, token.id = id ∧
      .call (host.tokenRequest properties account.id) (.ok token) ∈ before) ∧
      Finishes properties account.id tokenId event

/-- The events up to the service account, and the one that creates it. -/
theorem opened_split {account : ServiceAccount} (h : events ∈ Host.opened properties account) :
    (∀ other ∈ events, Prepares properties other ∨
        other = .call (accountRequest properties) (.ok account)) ∧
      .call (accountRequest properties) (.ok account) ∈ events := by
  obtain ⟨first, hFirst, _, rfl, rfl⟩ := Language.mem_mul.mp h
  constructor
  · intro other hm
    rcases List.mem_append.mp hm with hm | hm
    · exact Or.inl (hFirst other hm)
    · exact Or.inr (List.mem_singleton.mp hm)
  · simp

theorem not_removes_of_opened {account : ServiceAccount} (h : events ∈ Host.opened properties account) :
    ∀ other ∈ events, ¬Removes other := by
  intro other hm
  rcases (opened_split h).1 other hm with hPrepares | rfl
  · exact not_removes_of_prepares hPrepares
  · exact id

/-- Every event of the work with an account in its place. -/
theorem worked_split {account : ServiceAccount} {opening rest : List ProvisioningEvent}
    (hOpening : ∀ other ∈ opening, ¬Removes other)
    (h : before ++ event :: rest ∈ host.worked properties account) :
    Served properties host (opening ++ before) account event := by
  rcases h with h | h
  · obtain ⟨_, ⟨error, rfl⟩, last, hLast, hSplit⟩ := Language.mem_mul.mp h
    rcases append_split hSplit with ⟨_, hRefused⟩ | ⟨middle, rfl, rfl⟩
    · have hEvent : event ∈ [Event.call (host.tokenRequest properties account.id) (.error error)] :=
        hRefused ▸ List.mem_append_right before List.mem_cons_self
      exact Or.inl ⟨_, List.mem_singleton.mp hEvent⟩
    · exact Or.inr (Or.inr ⟨none, nofun, hLast event (by simp)⟩)
  · obtain ⟨token, h⟩ := Language.mem_iSup.mp h
    obtain ⟨served, hServed, last, hLast, hSplit⟩ := Language.mem_mul.mp h
    obtain ⟨_, rfl, work, hWork, rfl⟩ := Language.mem_mul.mp hServed
    rcases append_split hSplit with ⟨_, hSplit⟩ | ⟨middle, rfl, rfl⟩
    · cases before with
      | nil =>
          obtain ⟨hEvent, _⟩ := List.cons.inj hSplit
          exact Or.inl ⟨_, hEvent.symm⟩
      | cons first middle =>
          obtain ⟨rfl, rfl⟩ := List.cons.inj hSplit
          refine Or.inr (Or.inl ⟨token, by simp, hWork event (by simp), fun other hm => ?_⟩)
          simp only [List.mem_append, List.mem_cons] at hm
          rcases hm with hm | rfl | hm
          · exact hOpening other hm
          · exact id
          · exact not_removes_of_worksWith (hWork other (by simp [hm]))
    · refine Or.inr (Or.inr ⟨some token.id, ?_, hLast event (by simp)⟩)
      rintro id ⟨⟩
      exact ⟨token, rfl, by simp⟩

/-- Every event of a session in its place. -/
theorem session_split (h : events ∈ host.session properties)
    (hSplit : events = before ++ event :: after) :
    Prepares properties event ∨ IsAnswer event ∨
      (∃ account, event = .call (accountRequest properties) (.ok account)) ∨
      ∃ account, .call (accountRequest properties) (.ok account) ∈ before ∧
        Served properties host before account event := by
  rcases h with h | h
  · obtain ⟨first, hFirst, second, hSecond, rfl⟩ := Language.mem_mul.mp h
    rcases append_split hSplit with ⟨rest, rfl⟩ | ⟨middle, _, rfl⟩
    · exact Or.inl (hFirst event (by simp))
    · exact Or.inr (Or.inl (hSecond event (by simp)))
  · obtain ⟨account, h⟩ := Language.mem_iSup.mp h
    obtain ⟨first, hFirst, work, hWork, rfl⟩ := Language.mem_mul.mp h
    obtain ⟨hOpening, hOpened⟩ := opened_split hFirst
    rcases append_split hSplit with ⟨rest, rfl⟩ | ⟨middle, rfl, rfl⟩
    · rcases hOpening event (by simp) with hPrepares | hAccount
      · exact Or.inl hPrepares
      · exact Or.inr (Or.inr (Or.inl ⟨account, hAccount⟩))
    · refine Or.inr (Or.inr (Or.inr ⟨account, List.mem_append_left _ hOpened, ?_⟩))
      exact worked_split (not_removes_of_opened hFirst) hWork

/-- Every request of the workspace in an invocation: it is one of those that the
properties of the invocation call for, it carries the key of a token that the invocation
was issued before, for an account that it created before, and no credential has been
removed yet. -/
theorem Host.requests_authorized {World : Type} (host : Host World) (input : Str) (w : World)
    {before after : List ProvisioningEvent} {request : GrafanaRequest}
    {result : Except Exn GrafanaResponse}
    (h : host.events input w = before ++ .call (.send request) result :: after) :
    ∃ json properties account token, host.parse input = .ok json ∧
      resourceProperties json = .ok properties ∧
      .call (accountRequest properties) (.ok account) ∈ before ∧
      .call (host.tokenRequest properties account.id) (.ok token) ∈ before ∧
      Issues properties token.key request ∧ ∀ event ∈ before, ¬Removes event := by
  obtain ⟨hAnswers | ⟨json, properties, hParse, hProperties, hSession⟩, _⟩ :=
    events_session host input w
  · exact (hAnswers (.call (.send request) result) (by simp [h])).elim
  · obtain hPrepares | hAnswer | ⟨_, hAccount⟩ | ⟨account, hAccount, ⟨_, hToken⟩ |
      ⟨token, hToken, hWork, hKept⟩ | ⟨_, _, hFinishes⟩⟩ := session_split hSession h
    · exact hPrepares.elim
    · exact hAnswer.elim
    · cases hAccount
    · cases hToken
    · exact ⟨json, properties, account, token, hParse, hProperties, hAccount, hToken, hWork, hKept⟩
    · exact hFinishes.elim

theorem IsAnswer.not_removes (h : IsAnswer event) : ¬Removes event := by
  cases event with
  | note line => exact id
  | call request result =>
      cases request with
      | respond responseUrl response => exact id
      | _ => exact h.elim

/-- An invocation removes the account that it has created itself and the token that it was
issued for it, and no others. -/
theorem Host.removes_own {World : Type} (host : Host World) (input : Str) (w : World)
    {before after : List ProvisioningEvent} {event : ProvisioningEvent}
    (h : host.events input w = before ++ event :: after) (hRemoves : Removes event) :
    ∃ json properties account, host.parse input = .ok json ∧
      resourceProperties json = .ok properties ∧
      .call (accountRequest properties) (.ok account) ∈ before ∧
      ((∃ result, event =
          .call (.deleteWorkspaceServiceAccount properties.workspaceId account.id) result) ∨
        ∃ token, .call (host.tokenRequest properties account.id) (.ok token) ∈ before ∧
          ∃ result, event = .call (.deleteWorkspaceServiceAccountToken properties.workspaceId
            account.id token.id) result) := by
  obtain ⟨hAnswers | ⟨json, properties, hParse, hProperties, hSession⟩, _⟩ :=
    events_session host input w
  · exact ((hAnswers event (by simp [h])).not_removes hRemoves).elim
  · obtain hPrepares | hAnswer | ⟨_, rfl⟩ | ⟨account, hAccount, ⟨_, rfl⟩ |
      ⟨token, hToken, hWork, hKept⟩ | ⟨tokenId, hIssued, hFinishes⟩⟩ := session_split hSession h
    · exact (not_removes_of_prepares hPrepares hRemoves).elim
    · exact (hAnswer.not_removes hRemoves).elim
    · exact hRemoves.elim
    · exact hRemoves.elim
    · exact (not_removes_of_worksWith hWork hRemoves).elim
    · refine ⟨json, properties, account, hParse, hProperties, hAccount, ?_⟩
      cases event with
      | note line => exact hRemoves.elim
      | call request result =>
          cases request with
          | deleteWorkspaceServiceAccountToken workspaceId accountId id =>
              obtain ⟨rfl, rfl, hId⟩ := hFinishes
              obtain ⟨token, rfl, hToken⟩ := hIssued id hId
              exact Or.inr ⟨token, hToken, result, rfl⟩
          | deleteWorkspaceServiceAccount workspaceId accountId =>
              obtain ⟨rfl, rfl⟩ := hFinishes
              exact Or.inl ⟨result, rfl⟩
          | _ => exact hRemoves.elim

end Order

section Example

def isSend : ProvisioningEvent → Bool
  | .call (.send _) _ => true
  | _ => false

def isTokenRemoval : ProvisioningEvent → Bool
  | .call (.deleteWorkspaceServiceAccountToken ..) _ => true
  | _ => false

theorem send_of_any {events : List ProvisioningEvent} (h : events.any isSend = true) :
    ∃ before request result after, events = before ++ .call (.send request) result :: after := by
  obtain ⟨event, hm, hSend⟩ := List.any_eq_true.mp h
  obtain ⟨before, after, rfl⟩ := List.append_of_mem hm
  cases event with
  | note line => cases hSend
  | call request result =>
      cases request with
      | send request => exact ⟨before, request, result, after, rfl⟩
      | _ => cases hSend

theorem removal_of_any {events : List ProvisioningEvent} (h : events.any isTokenRemoval = true) :
    ∃ before workspaceId accountId tokenId result after, events = before ++
      .call (.deleteWorkspaceServiceAccountToken workspaceId accountId tokenId) result :: after := by
  obtain ⟨event, hm, hRemoval⟩ := List.any_eq_true.mp h
  obtain ⟨before, after, rfl⟩ := List.append_of_mem hm
  cases event with
  | note line => cases hRemoval
  | call request result =>
      cases request with
      | deleteWorkspaceServiceAccountToken => exact ⟨before, _, _, _, result, after, rfl⟩
      | _ => cases hRemoval

set_option maxRecDepth 20000 in
/-- A request of the workspace during a Create request. -/
theorem requests_authorized_example :
    ∃ before request result after json properties account token,
      (accountHost false).events (exampleInput "Create".toList) ⟨[], []⟩ =
        before ++ .call (.send request) result :: after ∧
      (accountHost false).parse (exampleInput "Create".toList) = .ok json ∧
      resourceProperties json = .ok properties ∧
      .call (accountRequest properties) (.ok account) ∈ before ∧
      .call ((accountHost false).tokenRequest properties account.id) (.ok token) ∈ before ∧
      Issues properties token.key request ∧ ∀ event ∈ before, ¬Removes event := by
  obtain ⟨before, request, result, after, hSplit⟩ := send_of_any
    (show ((accountHost false).events (exampleInput "Create".toList) ⟨[], []⟩).any isSend = true by
      decide)
  obtain ⟨json, properties, account, token, h⟩ := Host.requests_authorized _ _ _ hSplit
  exact ⟨before, request, result, after, json, properties, account, token, hSplit, h⟩

set_option maxRecDepth 20000 in
/-- The token that a Create request removes is the one that it was issued. -/
theorem removes_own_example :
    ∃ before workspaceId accountId tokenId result after json properties account token,
      (accountHost false).events (exampleInput "Create".toList) ⟨[], []⟩ = before ++
        .call (.deleteWorkspaceServiceAccountToken workspaceId accountId tokenId) result :: after ∧
      (accountHost false).parse (exampleInput "Create".toList) = .ok json ∧
      resourceProperties json = .ok properties ∧
      .call (accountRequest properties) (.ok account) ∈ before ∧
      .call ((accountHost false).tokenRequest properties account.id) (.ok token) ∈ before ∧
      tokenId = token.id := by
  obtain ⟨before, workspaceId, accountId, tokenId, result, after, hSplit⟩ := removal_of_any
    (show ((accountHost false).events (exampleInput "Create".toList) ⟨[], []⟩).any isTokenRemoval =
      true by decide)
  obtain ⟨json, properties, account, hParse, hProperties, hAccount,
    ⟨_, hEvent⟩ | ⟨token, hToken, _, hEvent⟩⟩ := Host.removes_own _ _ _ hSplit trivial
  · cases hEvent
  · cases hEvent
    exact ⟨before, _, _, _, _, after, json, properties, account, token, hSplit, hParse, hProperties,
      hAccount, hToken, rfl⟩

end Example

end KiroGrafanaProvisioner
