import KiroUsage.Grafana.Sessions
import KiroUsage.Grafana.Drift

/-! Provisionings that fail. An invocation may throw, its replies may be lost, and the
Lambda timeout may stop it between any two requests. Whatever it has left behind, the
rest of the workspace is as it was, and a later provisioning that succeeds makes up for it. -/
namespace KiroGrafanaProvisioner

open Text Execution
open KiroIngest (Json)

/-- What is documented of the services for the requests with these properties, whether
they succeed or not: a request takes effect or it does not, and of a batch of roles a
part may have been added. -/
structure Applies {World : Type} (host : Host World) (view : World → Workspace)
    (properties : ProvisioningProperties) : Prop where
  permissions : ∀ {w result next},
    host.services (.updatePermissions properties.workspaceId properties.instructions) w =
      (result, next) →
    ∃ added ⊆ assignments properties.instructions, view next = (view w).grant added
  folder : ∀ {w token result next},
    host.services (.send (createFolder properties.workspaceEndpoint token)) w = (result, next) →
    view next = view w ∨ view next = (view w).ensureFolder folderUid folderTitle
  dataSourcePut : ∀ {w token result next},
    host.services (.send (putDataSource token properties)) w = (result, next) →
    view next = view w ∨
      view next = (view w).storeDataSource athenaDataSourceUid properties.dataSource
  dataSourcePost : ∀ {w token result next},
    host.services (.send (postDataSource token properties)) w = (result, next) →
    view next = view w ∨
      view next = (view w).storeDataSource athenaDataSourceUid properties.dataSource
  dashboard : ∀ {w token dashboard uid result next},
    host.services (.send (postDashboard properties.workspaceEndpoint token dashboard)) w =
      (result, next) →
    requiredString dashboard "uid".toList = .ok uid →
    view next = view w ∨ view next = (view w).storeDashboard uid dashboard folderUid
  untouched : ∀ {request w result next}, ¬Configures request →
    host.services request w = (result, next) → view next = view w

/-- What provisionings with such properties may make of a workspace, finished or not. -/
structure Between (provisionings : Set ProvisioningProperties) (ws ws' : Workspace) : Prop where
  kept : ws.roles ⊆ ws'.roles
  roles : ws'.roles ⊆ ws.roles ∪ {assignment | ∃ properties ∈ provisionings,
    assignment ∈ properties.intended}
  folders : ws'.folders = ws.folders ∨
    ws'.folders = (ws.ensureFolder folderUid folderTitle).folders
  dataSources : ∀ uid ≠ athenaDataSourceUid, ws'.dataSources uid = ws.dataSources uid
  dashboards : ∀ uid, (∀ properties ∈ provisionings, uid ≠ properties.fleetDashboardUid ∧
    uid ≠ properties.userDrilldownDashboardUid) → ws'.dashboards uid = ws.dashboards uid

namespace Workspace

variable {ws ws' : Workspace}

theorem ensureFolder_of_none {uid title : Str} (h : ws.folders uid = none) :
    ws.ensureFolder uid title = ws.storeFolder uid title := by
  unfold ensureFolder
  rw [h]

theorem ensureFolder_of_some {uid title kept : Str} (h : ws.folders uid = some kept) :
    ws.ensureFolder uid title = ws := by
  unfold ensureFolder
  rw [h]

/-- The folders that result depend on the folders only. -/
theorem ensureFolder_congr {uid title : Str} (h : ws'.folders = ws.folders) :
    (ws'.ensureFolder uid title).folders = (ws.ensureFolder uid title).folders := by
  cases hFolder : ws.folders uid with
  | none =>
      rw [ensureFolder_of_none hFolder, ensureFolder_of_none (by rw [h, hFolder])]
      exact congrArg (Function.update · uid (some title)) h
  | some kept => rw [ensureFolder_of_some hFolder, ensureFolder_of_some (by rw [h, hFolder]), h]

theorem ensureFolder_again (uid title : Str) :
    ((ws.ensureFolder uid title).ensureFolder uid title).folders =
      (ws.ensureFolder uid title).folders := by
  rw [ensureFolder_of_some (ensureFolder_folders ws uid title)]

/-- A folder is ensured once and for all. -/
theorem ensureFolder_between {uid title : Str} (h : ws'.folders = ws.folders ∨
    ws'.folders = (ws.ensureFolder uid title).folders) :
    (ws'.ensureFolder uid title).folders = (ws.ensureFolder uid title).folders := by
  rcases h with h | h
  · exact ensureFolder_congr h
  · rw [ensureFolder_congr h, ensureFolder_again]

theorem ensureFolder_others (uid title : Str) :
    (ws.ensureFolder uid title).dataSources = ws.dataSources ∧
      (ws.ensureFolder uid title).dashboards = ws.dashboards := by
  cases hFolder : ws.folders uid with
  | none =>
      rw [ensureFolder_of_none hFolder]
      exact ⟨rfl, rfl⟩
  | some kept =>
      rw [ensureFolder_of_some hFolder]
      exact ⟨rfl, rfl⟩

end Workspace

section Frame

variable {provisionings : Set ProvisioningProperties} {ws ws' ws'' : Workspace}

theorem Between.refl (provisionings : Set ProvisioningProperties) (ws : Workspace) :
    Between provisionings ws ws :=
  ⟨le_rfl, Set.subset_union_left, Or.inl rfl, fun _ _ => rfl, fun _ _ => rfl⟩

theorem Between.trans (h : Between provisionings ws ws') (h' : Between provisionings ws' ws'') :
    Between provisionings ws ws'' where
  kept := h.kept.trans h'.kept
  roles := h'.roles.trans (Set.union_subset h.roles Set.subset_union_right)
  folders := by
    rcases h'.folders with hSame | hEnsured
    · rw [hSame]
      exact h.folders
    · rw [hEnsured]
      exact Or.inr (Workspace.ensureFolder_between h.folders)
  dataSources := fun uid hUid => (h'.dataSources uid hUid).trans (h.dataSources uid hUid)
  dashboards := fun uid hUid => (h'.dashboards uid hUid).trans (h.dashboards uid hUid)

theorem Between.grant {properties : ProvisioningProperties} (hMem : properties ∈ provisionings)
    {added : Set (Str × Role)} (hAdded : added ⊆ properties.intended) :
    Between provisionings ws (ws.grant added) where
  kept := Set.subset_union_left
  roles := Set.union_subset_union_right _ fun _ hm => ⟨properties, hMem, hAdded hm⟩
  folders := Or.inl rfl
  dataSources := fun _ _ => rfl
  dashboards := fun _ _ => rfl

theorem Between.ensureFolder : Between provisionings ws (ws.ensureFolder folderUid folderTitle) where
  kept := (Workspace.ensureFolder_roles ws _ _).ge
  roles := (Workspace.ensureFolder_roles ws _ _).le.trans Set.subset_union_left
  folders := Or.inr rfl
  dataSources := fun uid _ => congrFun (Workspace.ensureFolder_others _ _).1 uid
  dashboards := fun uid _ => congrFun (Workspace.ensureFolder_others _ _).2 uid

theorem Between.storeDataSource (settings : Json) :
    Between provisionings ws (ws.storeDataSource athenaDataSourceUid settings) where
  kept := le_rfl
  roles := Set.subset_union_left
  folders := Or.inl rfl
  dataSources := fun _ hUid => Function.update_of_ne hUid _ _
  dashboards := fun _ _ => rfl

theorem Between.storeDashboard {properties : ProvisioningProperties}
    (hMem : properties ∈ provisionings) {uid : Str}
    (hUid : uid = properties.fleetDashboardUid ∨ uid = properties.userDrilldownDashboardUid)
    (body : Json) (folderUid : Str) :
    Between provisionings ws (ws.storeDashboard uid body folderUid) where
  kept := le_rfl
  roles := Set.subset_union_left
  folders := Or.inl rfl
  dataSources := fun _ _ => rfl
  dashboards := by
    intro other hOther
    apply Function.update_of_ne
    rintro rfl
    obtain ⟨hFleet, hUserDrilldown⟩ := hOther properties hMem
    rcases hUid with hUid | hUid
    · exact hFleet hUid
    · exact hUserDrilldown hUid

/-- A folder that is there stays as it is, and no other one comes than their own. -/
theorem Between.folders_kept (h : Between provisionings ws ws') {uid : Str}
    (hUid : uid ≠ folderUid ∨ (ws.folders uid).isSome = true) : ws'.folders uid = ws.folders uid := by
  rcases h.folders with hSame | hEnsured
  · rw [hSame]
  rw [hEnsured]
  cases hFolder : ws.folders folderUid with
  | some title => rw [Workspace.ensureFolder_of_some hFolder]
  | none =>
      rw [Workspace.ensureFolder_of_none hFolder]
      apply Function.update_of_ne
      rintro rfl
      rw [hFolder] at hUid
      simp at hUid

end Frame

section Step

variable {World : Type} {host : Host World} {view : World → Workspace}
  {properties : ProvisioningProperties} {provisionings : Set ProvisioningProperties} {w next : World}

/-- A request of a session is one of its workspace, the one for the roles, or one that
configures nothing. -/
theorem requests_of_session {events : List ProvisioningEvent} {call : Request}
    {result : Except Exn (Reply call)} (h : events ∈ host.session properties)
    (hm : .call call result ∈ events) :
    ¬Configures call ∨
      call = .updatePermissions properties.workspaceId properties.instructions ∨
      ∃ token request, call = .send request ∧ Issues properties token request := by
  obtain ⟨before, after, hSplit⟩ := List.append_of_mem hm
  obtain hPrepares | hAnswer | ⟨_, hAccount⟩ | ⟨account, _, ⟨_, hToken⟩ | ⟨token, _, hWork, _⟩ |
    ⟨_, _, hFinishes⟩⟩ := session_split h hSplit
  · cases call with
    | updatePermissions =>
        exact Or.inr (Or.inl (congrArg₂ Request.updatePermissions hPrepares.1 hPrepares.2))
    | createWorkspaceServiceAccount => exact Or.inl id
    | _ => exact hPrepares.elim
  · cases call with
    | respond => exact Or.inl id
    | _ => exact hAnswer.elim
  · cases hAccount
    exact Or.inl id
  · cases hToken
    exact Or.inl id
  · cases call with
    | send request => exact Or.inr (Or.inr ⟨token.key, request, rfl, hWork⟩)
    | getObject => exact Or.inl id
    | elapsed => exact Or.inl id
    | delay => exact Or.inl id
    | _ => exact hWork.elim
  · cases call with
    | deleteWorkspaceServiceAccountToken => exact Or.inl id
    | deleteWorkspaceServiceAccount => exact Or.inl id
    | respond => exact Or.inl id
    | _ => exact hFinishes.elim

variable (hApplies : Applies host view properties) (hMem : properties ∈ provisionings)

include hApplies hMem

/-- A request of the workspace, whatever is heard of it. -/
theorem between_of_issues {token : Str} {request : GrafanaRequest} (h : Issues properties token request)
    {result : Except Exn GrafanaResponse} (hCall : host.services (.send request) w = (result, next)) :
    Between provisionings (view w) (view next) := by
  have hSame (hView : view next = view w) : Between provisionings (view w) (view next) :=
    hView ▸ Between.refl provisionings (view w)
  have hStored {ws : Workspace} (hBetween : Between provisionings (view w) ws)
      (hView : view next = view w ∨ view next = ws) : Between provisionings (view w) (view next) := by
    rcases hView with hView | hView
    · exact hSame hView
    · exact hView ▸ hBetween
  have hGet (hMethod : request.method = .get) : Between provisionings (view w) (view next) :=
    hSame (hApplies.untouched (not_configures_get hMethod) hCall)
  rcases h with h | ⟨dashboard, uid, hUid, hExpected, rfl⟩
  · simp only [List.mem_cons, List.not_mem_nil, or_false] at h
    rcases h with rfl | rfl | rfl | rfl | rfl | rfl | rfl | rfl
    · exact hStored .ensureFolder (hApplies.folder hCall)
    · exact hGet rfl
    · exact hGet rfl
    · exact hSame (hApplies.untouched (not_configures_install _ _) hCall)
    · exact hGet rfl
    · exact hStored (.storeDataSource _) (hApplies.dataSourcePut hCall)
    · exact hStored (.storeDataSource _) (hApplies.dataSourcePost hCall)
    · exact hGet rfl
  · exact hStored (.storeDashboard hMem hExpected _ _) (hApplies.dashboard hCall hUid)

/-- Any request of a session. -/
theorem between_of_session {events : List ProvisioningEvent} (h : events ∈ host.session properties)
    {call : Request} {result : Except Exn (Reply call)} (hm : .call call result ∈ events)
    (hCall : host.services call w = (result, next)) : Between provisionings (view w) (view next) := by
  rcases requests_of_session h hm with hOther | rfl | ⟨token, request, rfl, hIssues⟩
  · rw [hApplies.untouched hOther hCall]
    exact .refl _ _
  · obtain ⟨added, hAdded, hView⟩ := hApplies.permissions hCall
    rw [hView]
    exact .grant hMem (hAdded.trans (assignments_instructions properties).le)
  · exact between_of_issues hApplies hMem hIssues hCall

end Step

/-- Invocations one after another. Each one reads such properties, if it reads any, and
may be stopped after any of its events. -/
inductive Host.Attempts {World : Type} (host : Host World)
    (provisionings : Set ProvisioningProperties) : World → World → Prop
  | nil (w : World) : Attempts host provisionings w w
  | attempt {w middle after : World} (h : Attempts host provisionings w middle) (input : Str)
      (hReads : ∀ json properties, host.parse input = .ok json →
        resourceProperties json = .ok properties → properties ∈ provisionings)
      {told : List ProvisioningEvent} (hTold : told <+: host.events input middle)
      (hChain : Chain host.answers middle told after) : Attempts host provisionings w after

section Attempts

variable {World : Type} {host : Host World} {view : World → Workspace}
  {properties : ProvisioningProperties} {provisionings : Set ProvisioningProperties} {w after : World}

/-- CloudFormation is no part of the workspace. -/
theorem services_of_answers {call : Request} {result : Except Exn (Reply call)} {next : World}
    (h : host.answers call w = (result, next)) : next = w ∨ host.services call w = (result, next) := by
  cases call with
  | respond => exact Or.inl (Prod.mk.inj h).2.symm
  | _ => exact Or.inr h

/-- Any part of an invocation, from its start. -/
theorem between_of_told (hApplies : ∀ properties ∈ provisionings, Applies host view properties)
    {input : Str} (hReads : ∀ json properties, host.parse input = .ok json →
      resourceProperties json = .ok properties → properties ∈ provisionings)
    {told : List ProvisioningEvent} (hTold : told <+: host.events input w)
    (hChain : Chain host.answers w told after) : Between provisionings (view w) (view after) := by
  apply hChain.relates (fun w w' => Between provisionings (view w) (view w')) (fun w => .refl _ _)
    (fun hFirst hSecond => hFirst.trans hSecond)
  intro call result hm w' next hCall
  rcases services_of_answers hCall with rfl | hService
  · exact .refl _ _
  have hSaid : .call call result ∈ host.events input w := hTold.subset hm
  obtain ⟨hAnswers | ⟨json, properties, hParse, hProperties, hSession⟩, _⟩ :=
    events_session host input w
  · cases call with
    | respond =>
        rw [(Prod.mk.inj hCall).2]
        exact .refl _ _
    | _ => exact (hAnswers _ hSaid).elim
  · have hMem := hReads json properties hParse hProperties
    exact between_of_session (hApplies properties hMem) hMem hSession hSaid hService

theorem Host.Attempts.between (h : host.Attempts provisionings w after)
    (hApplies : ∀ properties ∈ provisionings, Applies host view properties) :
    Between provisionings (view w) (view after) := by
  induction h with
  | nil => exact .refl _ _
  | attempt _ input hReads hTold hChain ih => exact ih.trans (between_of_told hApplies hReads hTold hChain)

/-- A provisioning makes up for what is between. -/
theorem Between.provisioned_eq {ws ws' : Workspace} (h : Between {properties} ws ws')
    (fleet userDrilldown : Json) :
    ws'.provisioned properties fleet userDrilldown = ws.provisioned properties fleet userDrilldown := by
  have hRoles : ws'.roles ∪ properties.intended = ws.roles ∪ properties.intended := by
    apply Set.Subset.antisymm
    · apply Set.union_subset _ Set.subset_union_right
      intro assignment hm
      rcases h.roles hm with hOld | ⟨_, rfl, hNew⟩
      · exact Or.inl hOld
      · exact Or.inr hNew
    · exact Set.union_subset_union_left _ h.kept
  have hGrant (ws : Workspace) : ((ws.grant properties.intended).ensureFolder folderUid
      folderTitle).folders = (ws.ensureFolder folderUid folderTitle).folders :=
    Workspace.ensureFolder_congr rfl
  have hFolders : ((ws'.grant properties.intended).ensureFolder folderUid folderTitle).folders =
      ((ws.grant properties.intended).ensureFolder folderUid folderTitle).folders := by
    rw [hGrant, hGrant, Workspace.ensureFolder_between h.folders]
  have hDataSources : Function.update ws'.dataSources athenaDataSourceUid (some properties.dataSource) =
      Function.update ws.dataSources athenaDataSourceUid (some properties.dataSource) := by
    funext uid
    by_cases hUid : uid = athenaDataSourceUid
    · rw [hUid, Function.update_self, Function.update_self]
    · rw [Function.update_of_ne hUid, Function.update_of_ne hUid, h.dataSources uid hUid]
  have hDashboards : Function.update (Function.update ws'.dashboards properties.fleetDashboardUid
        (some (fleet, folderUid))) properties.userDrilldownDashboardUid
        (some (userDrilldown, folderUid)) =
      Function.update (Function.update ws.dashboards properties.fleetDashboardUid
        (some (fleet, folderUid))) properties.userDrilldownDashboardUid
        (some (userDrilldown, folderUid)) := by
    funext uid
    by_cases hUser : uid = properties.userDrilldownDashboardUid
    · rw [hUser, Function.update_self, Function.update_self]
    rw [Function.update_of_ne hUser, Function.update_of_ne hUser]
    by_cases hFleet : uid = properties.fleetDashboardUid
    · rw [hFleet, Function.update_self, Function.update_self]
    · rw [Function.update_of_ne hFleet, Function.update_of_ne hFleet]
      apply h.dashboards uid
      rintro _ rfl
      exact ⟨hFleet, hUser⟩
  have hOthers (ws : Workspace) : (ws.ensureFolder folderUid folderTitle).dataSources =
      ws.dataSources ∧ (ws.ensureFolder folderUid folderTitle).dashboards = ws.dashboards :=
    Workspace.ensureFolder_others folderUid folderTitle
  simp only [Workspace.provisioned, Workspace.storeDashboard, Workspace.storeDataSource,
    Workspace.ensureFolder_roles, hFolders, (hOthers _).1, (hOthers _).2]
  exact congr (congr (congrArg₂ Workspace.mk hRoles rfl) hDataSources) hDashboards

end Attempts

/-- What provisionings leave alone. However many invocations there were, whatever failed
in them and wherever they were stopped: no role was taken away, a group that is not theirs
has the roles that it had, and every folder but a missing one of their own, every other
data source and every other dashboard is as it was. -/
theorem Host.Attempts.leaves_others {World : Type} {host : Host World} {view : World → Workspace}
    {provisionings : Set ProvisioningProperties} {w after : World}
    (h : host.Attempts provisionings w after)
    (hApplies : ∀ properties ∈ provisionings, Applies host view properties) :
    (view w).roles ⊆ (view after).roles ∧
      (∀ group, (∀ properties ∈ provisionings, ∀ role, (group, role) ∉ properties.intended) →
        ∀ role, (group, role) ∈ (view after).roles ↔ (group, role) ∈ (view w).roles) ∧
      (∀ uid, uid ≠ folderUid ∨ ((view w).folders uid).isSome = true →
        (view after).folders uid = (view w).folders uid) ∧
      (∀ uid ≠ athenaDataSourceUid, (view after).dataSources uid = (view w).dataSources uid) ∧
      ∀ uid, (∀ properties ∈ provisionings, uid ≠ properties.fleetDashboardUid ∧
        uid ≠ properties.userDrilldownDashboardUid) →
        (view after).dashboards uid = (view w).dashboards uid := by
  have hBetween := h.between hApplies
  refine ⟨hBetween.kept, fun group hGroup role => ⟨fun hRole => ?_, fun hRole => hBetween.kept hRole⟩,
    fun uid hUid => hBetween.folders_kept hUid, hBetween.dataSources, hBetween.dashboards⟩
  rcases hBetween.roles hRole with hOld | ⟨properties, hMem, hIntended⟩
  · exact hOld
  · exact (hGroup properties hMem role hIntended).elim

/-- Provisioning recovers. However many invocations for the same properties there were,
whatever failed in them and wherever they were stopped: after one that is answered with
SUCCESS the workspace is what it would be, had it been the first and only one. -/
theorem Host.Attempts.recovers {World : Type} {host : Host World} {view : World → Workspace}
    {assets : Str → Str → Str} {properties : ProvisioningProperties} {w middle : World}
    (h : host.Attempts {properties} w middle) (hApplies : Applies host view properties)
    (hServes : Serves host view assets properties) {input : Str} {request : Json}
    (hParse : host.parse input = .ok request) (hType : Upserts request)
    (hProperties : resourceProperties request = .ok properties)
    (hSuccess : Answered .success (host.events input middle)) :
    ∃ fleet userDrilldown, host.fleetDashboard assets properties = .ok fleet ∧
      host.userDrilldownDashboard assets properties = .ok userDrilldown ∧
      view (host.after input middle) = (view w).provisioned properties fleet userDrilldown := by
  obtain ⟨fleet, userDrilldown, hFleet, hUserDrilldown, hAfter⟩ :=
    success_provisions hServes hParse hType hProperties hSuccess
  have hBetween : Between {properties} (view w) (view middle) := by
    apply h.between
    rintro _ rfl
    exact hApplies
  refine ⟨fleet, userDrilldown, hFleet, hUserDrilldown, ?_⟩
  rw [hAfter, hBetween.provisioned_eq]

section Example

theorem workspaceHost_applies : Applies workspaceHost id exampleSettings where
  permissions := by
    rintro ws result next h
    cases h
    exact ⟨_, subset_rfl, rfl⟩
  folder := by
    rintro ws token result next h
    cases h
    cases hFolder : ws.folders folderUid with
    | none =>
        right
        change (exampleSend (createFolder exampleSettings.workspaceEndpoint token) ws).2 =
          ws.ensureFolder folderUid folderTitle
        rw [Workspace.ensureFolder_of_none hFolder, exampleSend_folder, hFolder]
    | some title =>
        left
        change (exampleSend (createFolder exampleSettings.workspaceEndpoint token) ws).2 = _
        rw [exampleSend_folder, hFolder]
        rfl
  dataSourcePut := by
    rintro ws token result next h
    cases h
    exact Or.inr (congrArg Prod.snd exampleSend_put)
  dataSourcePost := by
    rintro ws token result next h
    cases h
    exact Or.inr (congrArg Prod.snd exampleSend_post)
  dashboard := by
    rintro ws token dashboard uid result next h hUid
    cases h
    exact Or.inr (congrArg Prod.snd (exampleSend_dashboard hUid))
  untouched := workspaceHost_serves.untouched

theorem exampleSettings_read {json : Json} {properties : ProvisioningProperties}
    (hParse : workspaceHost.parse (exampleInput "Create".toList) = .ok json)
    (hProperties : resourceProperties json = .ok properties) :
    properties ∈ ({exampleSettings} : Set ProvisioningProperties) := by
  cases workspaceHost_parse.symm.trans hParse
  cases exampleRequest_properties.symm.trans hProperties
  rfl

/-- A provisioning of the example that is not stopped. -/
theorem exampleAttempts (ws : Workspace) : workspaceHost.Attempts {exampleSettings} ws
    (workspaceHost.after (exampleInput "Create".toList) ws) :=
  .attempt (.nil ws) _ (fun _ _ => exampleSettings_read) (List.prefix_refl _)
    (events_session workspaceHost _ ws).2

/-- A dashboard of somebody else after a provisioning of the example that was stopped after
ten of its events. -/
theorem leaves_others_example : ∃ after : Workspace,
    workspaceHost.Attempts {exampleSettings} (exampleWorkspace ['o']) after ∧
      after.dashboards ['x'] = (exampleWorkspace ['o']).dashboards ['x'] := by
  let ws := exampleWorkspace ['o']
  obtain ⟨_, hChain⟩ := events_session workspaceHost (exampleInput "Create".toList) ws
  rw [← List.take_append_drop 10 (workspaceHost.events _ _)] at hChain
  obtain ⟨after, hTold, _⟩ := hChain.split
  have hRun : workspaceHost.Attempts {exampleSettings} ws after :=
    .attempt (.nil ws) _ (fun _ _ => exampleSettings_read) (List.take_prefix _ _) hTold
  have hApplies : ∀ properties ∈ ({exampleSettings} : Set ProvisioningProperties),
      Applies workspaceHost id properties := by
    rintro _ rfl
    exact workspaceHost_applies
  refine ⟨after, hRun, (hRun.leaves_others hApplies).2.2.2.2 ['x'] ?_⟩
  rintro _ rfl
  decide

/-- The workspace of the example after two provisionings. -/
theorem recovers_example : ∃ fleet userDrilldown,
    let input := exampleInput "Create".toList
    workspaceHost.after input (workspaceHost.after input (exampleWorkspace ['o'])) =
      (exampleWorkspace ['o']).provisioned exampleSettings fleet userDrilldown := by
  obtain ⟨fleet, userDrilldown, _, _, h⟩ := (exampleAttempts (exampleWorkspace ['o'])).recovers
    workspaceHost_applies workspaceHost_serves workspaceHost_parse exampleRequest_upserts
    exampleRequest_properties (answered_of_any (by decide +kernel))
  exact ⟨fleet, userDrilldown, h⟩

end Example

end KiroGrafanaProvisioner
