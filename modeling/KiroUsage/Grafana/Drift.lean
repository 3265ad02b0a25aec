import KiroUsage.Grafana.Workspace

/-! Drift. Whatever a workspace was before, a successful request should leave it as
the request alone says. Settings and dashboards are overwritten, but a role is
never revoked, and a folder that is there keeps its title. -/
namespace KiroGrafanaProvisioner

open Text Execution
open Fallible (ok_bind)
open KiroIngest (Json)

namespace Workspace

variable (ws : Workspace) (properties : ProvisioningProperties) (fleet userDrilldown : Json)

theorem ensureFolder_roles (uid title : Str) : (ws.ensureFolder uid title).roles = ws.roles := by
  unfold ensureFolder
  cases ws.folders uid with
  | none => rfl
  | some _ => rfl

theorem ensureFolder_folders (uid title : Str) :
    (ws.ensureFolder uid title).folders uid = some ((ws.folders uid).getD title) := by
  unfold ensureFolder
  cases hFolder : ws.folders uid with
  | none => exact Function.update_self uid _ _
  | some kept => exact hFolder

end Workspace

/-- The groups that requests with these properties configure. -/
def configuredGroups (requests : List ProvisioningProperties) : Set Str :=
  {group | ∃ properties ∈ requests, ∃ role, (group, role) ∈ properties.intended}

section Drift

variable {World : Type} (host : Host World) (assets : Str → Str → Str)
  (properties : ProvisioningProperties) (earlier : List ProvisioningProperties)

/-- The workspace is what the last request says. No group that it or an earlier
request configured has another role. -/
structure Reconciled (ws : Workspace) : Prop where
  roles : ∀ group ∈ configuredGroups (properties :: earlier), ∀ role,
    (group, role) ∈ ws.roles ↔ (group, role) ∈ properties.intended
  folder : ws.folders folderUid = some folderTitle
  dataSource : ws.dataSources athenaDataSourceUid = some properties.dataSource
  fleet : ∃ body, host.fleetDashboard assets properties = .ok body ∧
    ws.dashboards properties.fleetDashboardUid = some (body, folderUid)
  userDrilldown : ∃ body, host.userDrilldownDashboard assets properties = .ok body ∧
    ws.dashboards properties.userDrilldownDashboardUid = some (body, folderUid)

end Drift

section Repair

variable {World : Type} {host : Host World} {assets : Str → Str → Str}
  {properties : ProvisioningProperties} {earlier : List ProvisioningProperties}

end Repair

section Example

/-- What is posted or put to the Grafana API of a workspace with the plugin. -/
def exampleStore (path : Str) (payload : Json) (ws : Workspace) : GrafanaResponse × Workspace :=
  if path = trimStart '/' foldersPath then
    match ws.folders folderUid with
    | none => (⟨200, []⟩, ws.storeFolder folderUid folderTitle)
    | some _ => (⟨412, []⟩, ws)
  else if path = trimStart '/' dashboardsPath then
    match (do
      let dashboard ← getProperty payload "dashboard".toList
      return (dashboard, ← requiredString dashboard "uid".toList)) with
    | .ok (dashboard, uid) => (⟨200, []⟩, ws.storeDashboard uid dashboard folderUid)
    | .error _ => (⟨400, []⟩, ws)
  else if path = trimStart '/' pluginInstallPath then (⟨409, []⟩, ws)
  else (⟨200, []⟩, ws.storeDataSource athenaDataSourceUid payload)

def exampleSend (request : GrafanaRequest) (ws : Workspace) : GrafanaResponse × Workspace :=
  match request.method with
  | .get =>
    if request.path = trimStart '/' (folderPath folderUid) ∧ (ws.folders folderUid).isNone then
      (⟨404, []⟩, ws)
    else (⟨200, exampleText exampleHealth⟩, ws)
  | _ =>
    match request.payload with
    | none => (⟨400, []⟩, ws)
    | some payload => exampleStore request.path payload ws

def exampleAssets (_ key : Str) : Str := exampleText (exampleDashboard key)

def workspaceServices : Services Request Reply Workspace Exn
  | .updatePermissions _ batch, ws => (.ok none, ws.grant (assignments batch))
  | .createWorkspaceServiceAccount .., ws => (.ok ⟨['a']⟩, ws)
  | .createWorkspaceServiceAccountToken .., ws => (.ok ⟨['t'], ['k']⟩, ws)
  | .deleteWorkspaceServiceAccountToken .., ws => (.ok (), ws)
  | .deleteWorkspaceServiceAccount .., ws => (.ok (), ws)
  | .send request, ws => (.ok (exampleSend request ws).1, (exampleSend request ws).2)
  | .getObject bucket key, ws => (.ok (exampleAssets bucket key), ws)
  | .respond .., ws => (.ok 200, ws)
  | .elapsed, ws => (.ok 0, ws)
  | .delay _, ws => (.ok (), ws)

def workspaceHost : Host Workspace where
  awsRequestId := ['x']
  registrationDelays := 24
  parse := exampleParse
  services := workspaceServices
  deliver := fun _ _ => ⟨true, .ok 200⟩

/-- A workspace with the data source, and with a folder of this title. -/
def exampleWorkspace (title : Str) : Workspace where
  roles := ∅
  folders := fun uid => if uid = folderUid then some title else none
  dataSources := fun _ => some .null
  dashboards := fun _ => none

def exampleSettings : ProvisioningProperties where
  workspaceId := ['w']
  workspaceEndpoint := ['e']
  adminGroupId := ['a']
  editorGroupId := ['b']
  viewerGroupId := ['c']
  analyticsBucketName := ['s']
  databaseName := ['d']
  workGroupName := ['g']
  region := ['r']
  fleetDashboardAssetBucket := ['k']
  fleetDashboardAssetKey := ['f']
  userDrilldownDashboardAssetBucket := ['k']
  userDrilldownDashboardAssetKey := ['u']
  fleetDashboardUid := ['f']
  userDrilldownDashboardUid := ['u']

theorem exampleRequest_properties :
    resourceProperties (exampleRequest "Create".toList) = .ok exampleSettings := by
  rfl

section Send

variable {ws next : Workspace} {endpoint token : Str} {properties : ProvisioningProperties}
  {reply : GrafanaResponse}

theorem workspaceServices_send {request : GrafanaRequest}
    (h : workspaceHost.services (.send request) ws = (.ok reply, next)) :
    exampleSend request ws = (reply, next) := by
  cases h
  rfl

theorem exampleSend_folder : exampleSend (createFolder endpoint token) ws =
    match ws.folders folderUid with
    | none => (⟨200, []⟩, ws.storeFolder folderUid folderTitle)
    | some _ => (⟨412, []⟩, ws) := by
  change exampleStore (trimStart '/' foldersPath) _ ws = _
  rw [exampleStore, if_pos rfl]

theorem exampleSend_dashboard {dashboard : Json} {uid : Str}
    (hUid : requiredString dashboard "uid".toList = .ok uid) :
    exampleSend (postDashboard endpoint token dashboard) ws =
      (⟨200, []⟩, ws.storeDashboard uid dashboard folderUid) := by
  have hFound : getProperty (dashboardPayload dashboard folderUid) "dashboard".toList =
      .ok dashboard := by rfl
  change exampleStore (trimStart '/' dashboardsPath) (dashboardPayload dashboard folderUid) ws = _
  rw [exampleStore, if_neg (by decide), if_pos rfl, hFound, ok_bind, hUid]
  rfl

theorem exampleStore_dataSource {path : Str} (payload : Json)
    (hFolders : path ≠ trimStart '/' foldersPath) (hDashboards : path ≠ trimStart '/' dashboardsPath)
    (hInstall : path ≠ trimStart '/' pluginInstallPath) :
    exampleStore path payload ws = (⟨200, []⟩, ws.storeDataSource athenaDataSourceUid payload) := by
  rw [exampleStore, if_neg hFolders, if_neg hDashboards, if_neg hInstall]

theorem exampleSend_put : exampleSend (putDataSource token properties) ws =
    (⟨200, []⟩, ws.storeDataSource athenaDataSourceUid properties.dataSource) := by
  change exampleStore (trimStart '/' (dataSourcePath athenaDataSourceUid)) _ ws = _
  exact exampleStore_dataSource _ (by decide) (by decide) (by decide)

theorem exampleSend_post : exampleSend (postDataSource token properties) ws =
    (⟨200, []⟩, ws.storeDataSource athenaDataSourceUid properties.dataSource) := by
  change exampleStore (trimStart '/' dataSourcesPath) _ ws = _
  exact exampleStore_dataSource _ (by decide) (by decide) (by decide)

theorem exampleSend_get {request : GrafanaRequest} (h : request.method = .get) :
    (exampleSend request ws).2 = ws := by
  unfold exampleSend
  rw [h]
  dsimp only
  split_ifs
  · rfl
  · rfl

theorem exampleSend_install {request : GrafanaRequest}
    (h : request.path = trimStart '/' pluginInstallPath) :
    (exampleSend request ws).2 = ws := by
  have hStore (payload : Json) : exampleStore request.path payload ws = (⟨409, []⟩, ws) := by
    rw [h, exampleStore, if_neg (by decide), if_neg (by decide), if_pos rfl]
  by_cases hGet : request.method = .get
  · exact exampleSend_get hGet
  · unfold exampleSend
    cases hMethod : request.method with
    | get => exact (hGet hMethod).elim
    | post =>
        cases request.payload with
        | none => rfl
        | some payload => exact congrArg Prod.snd (hStore payload)
    | put =>
        cases request.payload with
        | none => rfl
        | some payload => exact congrArg Prod.snd (hStore payload)

end Send

theorem workspaceHost_serves : Serves workspaceHost id exampleAssets exampleSettings where
  permissionsAdded := by
    rintro ws next errors h _
    cases h
    rfl
  folderCreated := by
    rintro ws next token reply h hStatus
    have hSend := workspaceServices_send h
    rw [exampleSend_folder] at hSend
    cases hFolder : ws.folders folderUid with
    | none =>
        rw [hFolder] at hSend
        cases hSend
        exact ⟨hFolder, rfl⟩
    | some title =>
        rw [hFolder] at hSend
        cases hSend
        cases hStatus
  folderConflict := by
    rintro ws next token reply h hStatus
    have hSend := workspaceServices_send h
    rw [exampleSend_folder] at hSend
    cases hFolder : ws.folders folderUid with
    | none =>
        rw [hFolder] at hSend
        cases hSend
        rcases hStatus with hStatus | hStatus
        · cases hStatus
        · cases hStatus
    | some title =>
        rw [hFolder] at hSend
        cases hSend
        rfl
  folderRead := by
    rintro ws next token reply h hStatus
    have hSend := workspaceServices_send h
    cases hFolder : ws.folders folderUid with
    | some title => exact ⟨title, hFolder⟩
    | none =>
        have hMissing : exampleSend (getFolder exampleSettings.workspaceEndpoint token) ws =
            (⟨404, []⟩, ws) := if_pos ⟨rfl, by rw [hFolder]; rfl⟩
        cases hMissing.symm.trans hSend
        cases hStatus
  dataSourcePut := by
    rintro ws next token reply h _
    cases exampleSend_put.symm.trans (workspaceServices_send h)
    rfl
  dataSourcePost := by
    rintro ws next token reply h _
    cases exampleSend_post.symm.trans (workspaceServices_send h)
    rfl
  dashboardPost := by
    rintro ws next token dashboard uid reply h hUid _
    cases (exampleSend_dashboard hUid).symm.trans (workspaceServices_send h)
    rfl
  assetRead := by
    rintro ws next bucket key text h
    cases h
    rfl
  untouched := by
    rintro request ws result next hOther h
    cases request with
    | updatePermissions => exact (hOther trivial).elim
    | send request =>
        cases h
        by_cases hGet : request.method = .get
        · exact exampleSend_get hGet
        · exact exampleSend_install (not_not.mp fun hPath => hOther ⟨hGet, hPath⟩)
    | _ =>
        cases h
        rfl

theorem workspaceHost_parse : workspaceHost.parse (exampleInput "Create".toList) =
    .ok (exampleRequest "Create".toList) := exampleParse_create

end Example

end KiroGrafanaProvisioner
