import KiroUsage.Grafana.Completeness
import KiroUsage.Semantics.Fallible
import Mathlib.Data.Set.Insert

/-! What a workspace holds, and what a successful request makes of it, if the
services do what they are documented to do. -/
namespace KiroGrafanaProvisioner

open Text Execution
open Fallible (bind_eq_ok)
open KiroIngest (Json)

/-- The configuration of a workspace: the roles of its groups, the titles of its
folders, the settings of its data sources, and its dashboards with their folders. -/
structure Workspace where
  roles : Set (Str × Role)
  folders : Str → Option Str
  dataSources : Str → Option Json
  dashboards : Str → Option (Json × Str)

/-- The roles of groups that a batch adds. -/
def assignments (batch : List UpdateInstruction) : Set (Str × Role) :=
  {assignment | ∃ instruction ∈ batch, instruction.action = .add ∧
    instruction.role = assignment.2 ∧ ⟨assignment.1, .ssoGroup⟩ ∈ instruction.users}

/-- The roles that a request intends for its groups. -/
def ProvisioningProperties.intended (properties : ProvisioningProperties) : Set (Str × Role) :=
  {(properties.adminGroupId, .admin), (properties.editorGroupId, .editor),
    (properties.viewerGroupId, .viewer)}

theorem assignments_instructions (properties : ProvisioningProperties) :
    assignments properties.instructions = properties.intended := by
  ext ⟨group, role⟩
  simp only [assignments, ProvisioningProperties.instructions, ProvisioningProperties.intended,
    permission, Set.mem_ofPred_eq, Set.mem_insert_iff, Set.mem_singleton_iff, Prod.mk.injEq,
    List.mem_cons, List.not_mem_nil, or_false, exists_eq_or_imp, exists_eq_left, true_and,
    User.mk.injEq, and_true]
  tauto

namespace Workspace

variable (ws : Workspace)

/-- Roles are added, and none is taken away. -/
def grant (assignments : Set (Str × Role)) : Workspace := { ws with roles := ws.roles ∪ assignments }

def storeFolder (uid title : Str) : Workspace :=
  { ws with folders := Function.update ws.folders uid (some title) }

/-- A folder is created, unless there is one. -/
def ensureFolder (uid title : Str) : Workspace :=
  match ws.folders uid with
  | none => ws.storeFolder uid title
  | some _ => ws

def storeDataSource (uid : Str) (settings : Json) : Workspace :=
  { ws with dataSources := Function.update ws.dataSources uid (some settings) }

def storeDashboard (uid : Str) (body : Json) (folderUid : Str) : Workspace :=
  { ws with dashboards := Function.update ws.dashboards uid (some (body, folderUid)) }

/-- What a request with these properties makes of the workspace. -/
def provisioned (properties : ProvisioningProperties) (fleet userDrilldown : Json) : Workspace :=
  ((((ws.grant properties.intended).ensureFolder folderUid folderTitle).storeDataSource
    athenaDataSourceUid properties.dataSource).storeDashboard properties.fleetDashboardUid fleet
    folderUid).storeDashboard properties.userDrilldownDashboardUid userDrilldown folderUid

end Workspace

/-- The requests that may change what a workspace holds. -/
def Configures : Request → Prop
  | .updatePermissions .. => True
  | .send request => request.method ≠ .get ∧ request.path ≠ trimStart '/' pluginInstallPath
  | _ => False

theorem not_configures_get {request : GrafanaRequest} (h : request.method = .get) :
    ¬Configures (.send request) :=
  fun hConfigures => hConfigures.1 h

theorem not_configures_install (endpoint token : Str) :
    ¬Configures (.send (installPlugin endpoint token)) :=
  fun hConfigures => hConfigures.2 rfl

/-- What is documented of the services for the requests with these properties. ADD
only adds. A folder is created, or there is a conflict and nothing changes. What is
stored by PUT, or by POST with `overwrite`, replaces what was there. -/
structure Serves {World : Type} (host : Host World) (view : World → Workspace)
    (assets : Str → Str → Str) (properties : ProvisioningProperties) : Prop where
  permissionsAdded : ∀ {w next errors},
    host.services (.updatePermissions properties.workspaceId properties.instructions) w =
      (.ok errors, next) →
    (∀ error ∈ errors.getD [], error.reportsPresent = true) →
    view next = (view w).grant (assignments properties.instructions)
  folderCreated : ∀ {w next token reply},
    host.services (.send (createFolder properties.workspaceEndpoint token)) w = (.ok reply, next) →
    reply.statusCode = 200 →
    (view w).folders folderUid = none ∧ view next = (view w).storeFolder folderUid folderTitle
  folderConflict : ∀ {w next token reply},
    host.services (.send (createFolder properties.workspaceEndpoint token)) w = (.ok reply, next) →
    reply.statusCode = 409 ∨ reply.statusCode = 412 → view next = view w
  folderRead : ∀ {w next token reply},
    host.services (.send (getFolder properties.workspaceEndpoint token)) w = (.ok reply, next) →
    reply.statusCode = 200 → ∃ title, (view w).folders folderUid = some title
  dataSourcePut : ∀ {w next token reply},
    host.services (.send (putDataSource token properties)) w = (.ok reply, next) →
    reply.statusCode = 200 →
    view next = (view w).storeDataSource athenaDataSourceUid properties.dataSource
  dataSourcePost : ∀ {w next token reply},
    host.services (.send (postDataSource token properties)) w = (.ok reply, next) →
    reply.statusCode = 200 →
    view next = (view w).storeDataSource athenaDataSourceUid properties.dataSource
  dashboardPost : ∀ {w next token dashboard uid reply},
    host.services (.send (postDashboard properties.workspaceEndpoint token dashboard)) w =
      (.ok reply, next) →
    requiredString dashboard "uid".toList = .ok uid → reply.statusCode = 200 →
    view next = (view w).storeDashboard uid dashboard folderUid
  assetRead : ∀ {w next bucket key text},
    host.services (.getObject bucket key) w = (.ok text, next) → text = assets bucket key
  untouched : ∀ {request w result next}, ¬Configures request →
    host.services request w = (result, next) → view next = view w

namespace Host

variable {World : Type} (host : Host World) (assets : Str → Str → Str)
  (properties : ProvisioningProperties)

/-- The dashboards as they are committed. -/
def fleetDashboard : Except Exn Json :=
  host.renderDashboard (assets properties.fleetDashboardAssetBucket properties.fleetDashboardAssetKey)
    properties.fleetDashboardUid

def userDrilldownDashboard : Except Exn Json :=
  host.renderDashboard (assets properties.userDrilldownDashboardAssetBucket
    properties.userDrilldownDashboardAssetKey) properties.userDrilldownDashboardUid

end Host

section Steps

variable {World : Type} {host : Host World} {view : World → Workspace} {assets : Str → Str → Str}
  {properties : ProvisioningProperties} {w after : World} {token : Str}
  {meets : (request : Request) → Except Exn (Reply request) → World → World → Prop}

theorem leads_answered {request : GrafanaRequest} {statusCodes : List Nat}
    (h : Leads host.answers meets (answered request statusCodes) w after) :
    ∃ reply : GrafanaResponse, reply.statusCode ∈ statusCodes ∧
      host.services (.send request) w = (.ok reply, after) := by
  obtain ⟨_, ⟨reply, hStatus, rfl⟩, hChain⟩ := h
  exact ⟨reply, hStatus, (Leads.call ⟨_, rfl, hChain⟩).1⟩

/-- A rendered dashboard has the uid that was expected. -/
theorem uid_of_rendered {dashboardJson expectedUid : Str} {dashboard : Json}
    (h : host.renderDashboard dashboardJson expectedUid = .ok dashboard) :
    requiredString dashboard "uid".toList = .ok expectedUid := by
  obtain ⟨parsed, hParsed, h⟩ := bind_eq_ok.mp h
  obtain ⟨uid, hUid, h⟩ := bind_eq_ok.mp h
  split_ifs at h with hSame
  · cases h
    rw [hUid, hSame]

variable (hServes : Serves host view assets properties)

include hServes

theorem Serves.preserves {request : Request} (h : ¬Configures request)
    (result : Except Exn (Reply request)) :
    Preserves host.answers view (.call request result : ProvisioningEvent) :=
  host.preserves_of_services (hServes.untouched h) result

theorem leads_folderReady
    (h : Leads host.answers meets (folderReady properties.workspaceEndpoint token) w after) :
    view after = (view w).ensureFolder folderUid folderTitle := by
  unfold Workspace.ensureFolder
  rcases h.add with h | h
  · obtain ⟨reply, hStatus, hCall⟩ := leads_answered h
    obtain ⟨hAbsent, hStored⟩ := hServes.folderCreated hCall (List.mem_singleton.mp hStatus)
    rw [hAbsent, hStored]
  · obtain ⟨middle, hPost, hGet⟩ := h.mul
    obtain ⟨conflict, hConflict, hPost⟩ := leads_answered hPost
    obtain ⟨reply, hStatus, hCall⟩ := leads_answered hGet
    have hKept : view middle = view w :=
      hServes.folderConflict hPost (by simpa using hConflict)
    obtain ⟨title, hTitle⟩ := hServes.folderRead hCall (List.mem_singleton.mp hStatus)
    rw [hKept] at hTitle
    rw [hTitle, ← hKept]
    exact hServes.untouched (not_configures_get rfl) hCall

theorem leads_pluginReady
    (h : Leads host.answers meets (pluginReady properties.workspaceEndpoint token) w after) :
    view after = view w := by
  refine h.preserves (add_le ?_ (mul_le_only ?_ ?_))
  · exact answered_le_only _ _ fun _ => hServes.preserves (not_configures_get rfl) _
  · exact answered_le_only _ _ fun _ => hServes.preserves (not_configures_get rfl) _
  · exact answered_le_only _ _ fun _ => hServes.preserves (not_configures_install _ _) _

theorem leads_dataSourceStored
    (h : Leads host.answers meets (dataSourceStored token properties) w after) :
    view after = (view w).storeDataSource athenaDataSourceUid properties.dataSource := by
  have hSame {statusCodes : List Nat} {middle : World}
      (hGet : Leads host.answers meets (answered (getDataSource properties.workspaceEndpoint token)
        statusCodes) w middle) : view middle = view w := by
    obtain ⟨reply, _, hCall⟩ := leads_answered hGet
    exact hServes.untouched (not_configures_get rfl) hCall
  rcases h.add with h | h
  · obtain ⟨middle, hGet, hPut⟩ := h.mul
    obtain ⟨reply, hStatus, hCall⟩ := leads_answered hPut
    rw [← hSame hGet]
    exact hServes.dataSourcePut hCall (List.mem_singleton.mp hStatus)
  · obtain ⟨middle, hGet, hPost⟩ := h.mul
    obtain ⟨reply, hStatus, hCall⟩ := leads_answered hPost
    rw [← hSame hGet]
    exact hServes.dataSourcePost hCall (List.mem_singleton.mp hStatus)

theorem leads_verified
    (h : Leads host.answers meets (host.verified properties.workspaceEndpoint token) w after) :
    view after = view w :=
  h.preserves (verified_le_only _ _ host (hServes.preserves (not_configures_get rfl))
    (hServes.preserves id) (hServes.preserves id))

theorem leads_dashboardStored {dashboardJson expectedUid : Str}
    (h : Leads host.answers meets (host.dashboardStored properties.workspaceEndpoint token
      dashboardJson expectedUid) w after) :
    ∃ dashboard, host.renderDashboard dashboardJson expectedUid = .ok dashboard ∧
      view after = (view w).storeDashboard expectedUid dashboard folderUid := by
  obtain ⟨_, ⟨dashboard, hDashboard, hm⟩, hChain⟩ := h
  obtain ⟨reply, hStatus, hCall⟩ := leads_answered ⟨_, hm, hChain⟩
  refine ⟨dashboard, hDashboard, ?_⟩
  exact hServes.dashboardPost hCall (uid_of_rendered hDashboard) (List.mem_singleton.mp hStatus)

theorem leads_dashboardsStored
    (h : Leads host.answers meets (host.dashboardsStored token properties) w after) :
    ∃ fleet userDrilldown,
      host.fleetDashboard assets properties = .ok fleet ∧
      host.userDrilldownDashboard assets properties = .ok userDrilldown ∧
      view after = ((view w).storeDashboard properties.fleetDashboardUid fleet folderUid).storeDashboard
        properties.userDrilldownDashboardUid userDrilldown folderUid := by
  obtain ⟨fleetText, h⟩ := h.iSup
  obtain ⟨userDrilldownText, h⟩ := h.iSup
  obtain ⟨stored, h, hUserDrilldown⟩ := h.mul
  obtain ⟨read, h, hFleet⟩ := h.mul
  obtain ⟨begun, hFleetAsset, hUserDrilldownAsset⟩ := h.mul
  obtain ⟨hFleetRead, _⟩ := Leads.call hFleetAsset
  obtain ⟨hUserDrilldownRead, _⟩ := Leads.call hUserDrilldownAsset
  obtain ⟨fleet, hFleetRendered, hFleetStored⟩ := leads_dashboardStored hServes hFleet
  obtain ⟨userDrilldown, hUserDrilldownRendered, hUserDrilldownStored⟩ :=
    leads_dashboardStored hServes hUserDrilldown
  rw [hServes.assetRead hFleetRead] at hFleetRendered
  rw [hServes.assetRead hUserDrilldownRead] at hUserDrilldownRendered
  refine ⟨fleet, userDrilldown, hFleetRendered, hUserDrilldownRendered, ?_⟩
  rw [hUserDrilldownStored, hFleetStored, hServes.untouched id hUserDrilldownRead,
    hServes.untouched id hFleetRead]

/-- A complete provisioning makes the workspace what its properties say. -/
theorem leads_complete (h : Leads host.answers meets (host.complete properties) w after) :
    ∃ fleet userDrilldown, host.fleetDashboard assets properties = .ok fleet ∧
      host.userDrilldownDashboard assets properties = .ok userDrilldown ∧
      view after = (view w).provisioned properties fleet userDrilldown := by
  obtain ⟨account, h⟩ := h.iSup
  obtain ⟨token, h⟩ := h.iSup
  obtain ⟨configured, h, hCleaned⟩ := h.mul
  obtain ⟨issued, h, hConfigured⟩ := h.mul
  obtain ⟨created, h, hToken⟩ := h.mul
  obtain ⟨granted, hPermissions, hAccount⟩ := h.mul
  obtain ⟨_, ⟨errors, hErrors, rfl⟩, hChain⟩ := hPermissions
  have hGranted := hServes.permissionsAdded (Leads.call ⟨_, rfl, hChain⟩).1 hErrors
  have hCreated : view created = view granted := hServes.untouched id (Leads.call hAccount).1
  have hIssued : view issued = view created := hServes.untouched id (Leads.call hToken).1
  have hEnd : view after = view configured :=
    hCleaned.preserves (le_self_add.trans (cleanup_le_only (fun _ => hServes.preserves id _)
      (fun _ => hServes.preserves id _) fun _ => trivial))
  obtain ⟨verified, h, hDashboards⟩ := hConfigured.mul
  obtain ⟨stored, h, hVerified⟩ := h.mul
  obtain ⟨ready, h, hDataSource⟩ := h.mul
  obtain ⟨begun, hFolder, hPlugin⟩ := h.mul
  obtain ⟨fleet, userDrilldown, hFleet, hUserDrilldown, hConfigured⟩ :=
    leads_dashboardsStored hServes hDashboards
  refine ⟨fleet, userDrilldown, hFleet, hUserDrilldown, ?_⟩
  rw [hEnd, hConfigured, leads_verified hServes hVerified, leads_dataSourceStored hServes hDataSource,
    leads_pluginReady hServes hPlugin, leads_folderReady hServes hFolder, hIssued, hCreated, hGranted,
    assignments_instructions, Workspace.provisioned]

/-- After a Create or Update request that was answered with SUCCESS the workspace is
what the properties say, and nothing else has happened to it. -/
theorem success_provisions {input : Str} {request : Json} (hParse : host.parse input = .ok request)
    (hType : Upserts request) (hProperties : resourceProperties request = .ok properties)
    (hSuccess : Answered .success (host.events input w)) :
    ∃ fleet userDrilldown, host.fleetDashboard assets properties = .ok fleet ∧
      host.userDrilldownDashboard assets properties = .ok userDrilldown ∧
      view (host.after input w) = (view w).provisioned properties fleet userDrilldown := by
  obtain ⟨hEvents, hChain⟩ := events_upserted w hParse hType
  obtain ⟨properties', hProperties', hComplete⟩ := complete_of_success hEvents hSuccess
  cases hProperties.symm.trans hProperties'
  have hLeads : Leads host.answers (fun _ _ _ _ => True) (host.complete properties *
      (responded .success * (1 + reported))) w (host.after input w) :=
    ⟨_, hComplete, hChain, each_of_mem fun _ _ _ _ _ => trivial⟩
  obtain ⟨middle, hDone, hRest⟩ := hLeads.mul
  have hSame : view (host.after input w) = view middle :=
    hRest.preserves (success_le_answers.trans (only_mono fun _ hAnswer => hAnswer.preserves view))
  rw [hSame]
  exact leads_complete hServes hDone

end Steps

end KiroGrafanaProvisioner
