import KiroUsage.Infra.KiroInfraStack
import KiroUsage.Grafana.Sessions

/-! The custom resource that has a workspace provisioned. The properties that it is
given decide what the provider asks of AWS, and the role of the provider is made of the
same parts. -/
namespace KiroInfra

open Text Execution Access
open Fallible (bind_eq_ok pure_eq_ok)
open KiroIngest (Json tryGetProperty)
open KiroGrafanaProvisioner (Host ProvisioningProperties ProvisioningEvent requiredString
  getProperty resourceProperties)

/-- A file that the CDK has put into a bucket. -/
structure Asset where
  s3BucketName : Str
  s3ObjectKey : Str
  s3BucketName_valid : s3BucketName.all KiroInfraStack.isNameCharacter = true
  s3ObjectKey_valid : IsLiteral s3ObjectKey

/-- The construct in one account and region. `granted` are the statements of the managed
policy for the provider's logs. -/
structure GrafanaProvisioning where
  account : Str
  region : Str
  workspaceRef : Str
  workspaceEndpoint : Str
  analyticsBucket : Str
  adminGroupId : Str
  editorGroupId : Str
  viewerGroupId : Str
  databaseName : Str
  workGroupName : Str
  fleetDashboard : Asset
  userDrilldownDashboard : Asset
  granted : List Statement
  account_valid : account.all Char.isDigit = true
  region_valid : region.all KiroInfraStack.isNameCharacter = true
  workspaceRef_valid : workspaceRef.all KiroInfraStack.isNameCharacter = true

def fleetDashboardUid : Str := "kiro-usage-fleet-overview".toList
def userDrilldownDashboardUid : Str := "kiro-usage-user-drilldown".toList

namespace GrafanaProvisioning

variable (g : GrafanaProvisioning)

def arnHead : Str := "arn:aws:grafana:".toList ++ g.region ++ ':' :: g.account ++ ":/workspaces/".toList

def workspaceArn (workspaceId : Str) : Str := g.arnHead ++ workspaceId

def workspaceActions : List Str :=
  ["grafana:UpdatePermissions".toList, "grafana:CreateWorkspaceServiceAccount".toList,
    "grafana:CreateWorkspaceServiceAccountToken".toList,
    "grafana:DeleteWorkspaceServiceAccountToken".toList,
    "grafana:DeleteWorkspaceServiceAccount".toList]

def workspaceStatement : Statement where
  actions := workspaceActions
  resources := [g.workspaceArn g.workspaceRef]

/-- `UpdatePermissions` looks up the groups of the Identity Center. -/
def directoryStatement : Statement where
  actions := ["sso:DescribeRegisteredRegions".toList, "sso:GetSharedSsoConfiguration".toList,
    "sso:ListDirectoryAssociations".toList, "sso:GetManagedApplicationInstance".toList,
    "sso:ListProfiles".toList, "sso:AssociateProfile".toList, "sso:DisassociateProfile".toList,
    "sso:GetProfile".toList, "sso:ListProfileAssociations".toList,
    "sso-directory:DescribeUser".toList, "sso-directory:DescribeGroup".toList]
  resources := [['*']]

def Asset.arn (asset : Asset) : Str := arnForObjects asset.s3BucketName asset.s3ObjectKey

def assets : List Asset := [g.fleetDashboard, g.userDrilldownDashboard]

/-- The assets by bucket and key. -/
def objects : List (Str × Str) := g.assets.map fun asset => (asset.s3BucketName, asset.s3ObjectKey)

def assetsStatement : Statement where
  actions := [getAction]
  resources := g.assets.map Asset.arn

def rolePolicies : List Statement :=
  [g.workspaceStatement, directoryStatement, g.assetsStatement] ++ g.granted

/-- What `AddPropertyOverride` sets, in its order. -/
def propertyOverrides : List (Str × Str) :=
  [("WorkspaceId".toList, g.workspaceRef), ("WorkspaceEndpoint".toList, g.workspaceEndpoint),
    ("AdminGroupId".toList, g.adminGroupId), ("EditorGroupId".toList, g.editorGroupId),
    ("ViewerGroupId".toList, g.viewerGroupId), ("AnalyticsBucketName".toList, g.analyticsBucket),
    ("DatabaseName".toList, g.databaseName), ("WorkGroupName".toList, g.workGroupName),
    ("Region".toList, g.region),
    ("FleetDashboardAssetBucket".toList, g.fleetDashboard.s3BucketName),
    ("FleetDashboardAssetKey".toList, g.fleetDashboard.s3ObjectKey),
    ("UserDrilldownDashboardAssetBucket".toList, g.userDrilldownDashboard.s3BucketName),
    ("UserDrilldownDashboardAssetKey".toList, g.userDrilldownDashboard.s3ObjectKey),
    ("FleetDashboardUid".toList, fleetDashboardUid),
    ("UserDrilldownDashboardUid".toList, userDrilldownDashboardUid)]

/-- CloudFormation hands the properties of the resource over, besides others. -/
def Delivers (request : Json) : Prop :=
  ∃ members, getProperty request "ResourceProperties".toList = .ok (.object members) ∧
    ∀ override ∈ g.propertyOverrides, tryGetProperty members override.1 = some (.string override.2)

/-- What a request of the provider asks of AWS, if it asks AWS at all. -/
def serviceRequest : KiroGrafanaProvisioner.Request → Option Request
  | .updatePermissions workspaceId _ =>
    some ⟨"grafana:UpdatePermissions".toList, g.workspaceArn workspaceId, []⟩
  | .createWorkspaceServiceAccount workspaceId _ _ =>
    some ⟨"grafana:CreateWorkspaceServiceAccount".toList, g.workspaceArn workspaceId, []⟩
  | .createWorkspaceServiceAccountToken workspaceId _ _ _ =>
    some ⟨"grafana:CreateWorkspaceServiceAccountToken".toList, g.workspaceArn workspaceId, []⟩
  | .deleteWorkspaceServiceAccountToken workspaceId _ _ =>
    some ⟨"grafana:DeleteWorkspaceServiceAccountToken".toList, g.workspaceArn workspaceId, []⟩
  | .deleteWorkspaceServiceAccount workspaceId _ =>
    some ⟨"grafana:DeleteWorkspaceServiceAccount".toList, g.workspaceArn workspaceId, []⟩
  | .getObject bucketName key => some (objectRequest getAction bucketName key)
  | _ => none

end GrafanaProvisioning

/-- The properties by the names under which they are read. -/
def fields (properties : ProvisioningProperties) : List (Str × Str) :=
  [("WorkspaceId".toList, properties.workspaceId),
    ("WorkspaceEndpoint".toList, properties.workspaceEndpoint),
    ("AdminGroupId".toList, properties.adminGroupId),
    ("EditorGroupId".toList, properties.editorGroupId),
    ("ViewerGroupId".toList, properties.viewerGroupId),
    ("AnalyticsBucketName".toList, properties.analyticsBucketName),
    ("DatabaseName".toList, properties.databaseName),
    ("WorkGroupName".toList, properties.workGroupName), ("Region".toList, properties.region),
    ("FleetDashboardAssetBucket".toList, properties.fleetDashboardAssetBucket),
    ("FleetDashboardAssetKey".toList, properties.fleetDashboardAssetKey),
    ("UserDrilldownDashboardAssetBucket".toList, properties.userDrilldownDashboardAssetBucket),
    ("UserDrilldownDashboardAssetKey".toList, properties.userDrilldownDashboardAssetKey),
    ("FleetDashboardUid".toList, properties.fleetDashboardUid),
    ("UserDrilldownDashboardUid".toList, properties.userDrilldownDashboardUid)]

/-- The properties are what is read under each of their names. -/
theorem fromJson_eq_ok {json : Json} {properties : ProvisioningProperties}
    (h : ProvisioningProperties.fromJson json = .ok properties) :
    ∀ field ∈ fields properties, requiredString json field.1 = .ok field.2 := by
  simp only [ProvisioningProperties.fromJson, bind_eq_ok, pure_eq_ok] at h
  obtain ⟨_, h1, _, h2, _, h3, _, h4, _, h5, _, h6, _, h7, _, h8, _, h9, _, h10, _, h11, _, h12,
    _, h13, _, h14, _, h15, rfl⟩ := h
  simp only [fields, List.forall_mem_cons]
  exact ⟨h1, h2, h3, h4, h5, h6, h7, h8, h9, h10, h11, h12, h13, h14, h15, nofun⟩

/-- A text that is read is the value of the member. -/
theorem requiredString_member {members : List (Str × Json)} {name text value : Str}
    (hMember : tryGetProperty members name = some (.string value))
    (h : requiredString (.object members) name = .ok text) : text = value := by
  unfold requiredString at h
  obtain ⟨found, hFound, hText⟩ := bind_eq_ok.mp h
  have hValue : found = some (.string value) := (Except.ok.inj hFound).symm.trans hMember
  subst hValue
  dsimp only at hText
  split_ifs at hText
  exact (pure_eq_ok.mp hText).symm

section Permitted

variable {g : GrafanaProvisioning} {request : Json} {properties : ProvisioningProperties}

/-- Two lists of values under the same names, of which each one is what is read. -/
theorem values_eq {first second : List (Str × Str)} {members : List (Str × Json)}
    (hNames : first.map Prod.fst = second.map Prod.fst)
    (hFirst : ∀ field ∈ first, requiredString (.object members) field.1 = .ok field.2)
    (hSecond : ∀ field ∈ second, tryGetProperty members field.1 = some (.string field.2)) :
    first = second := by
  induction first generalizing second with
  | nil => exact (List.map_eq_nil_iff.mp hNames.symm).symm
  | cons field first ih =>
      cases second with
      | nil => cases hNames
      | cons field' second =>
          obtain ⟨hName, hRest⟩ := List.cons.inj hNames
          have hRead := hFirst field List.mem_cons_self
          rw [hName] at hRead
          have hValue : field.2 = field'.2 :=
            requiredString_member (hSecond field' List.mem_cons_self) hRead
          rw [Prod.ext hName hValue, ih hRest (fun _ hm => hFirst _ (List.mem_cons_of_mem _ hm))
            fun _ hm => hSecond _ (List.mem_cons_of_mem _ hm)]

/-- The provider reads what the construct has set. -/
theorem GrafanaProvisioning.Delivers.fields (h : g.Delivers request)
    (hProperties : resourceProperties request = .ok properties) :
    fields properties = g.propertyOverrides := by
  obtain ⟨members, hMembers, hOverrides⟩ := h
  obtain ⟨found, hFound, hRead⟩ := bind_eq_ok.mp hProperties
  cases hMembers.symm.trans hFound
  exact values_eq rfl (fromJson_eq_ok hRead) hOverrides

/-- A request about this workspace, for one of these objects, or for neither. -/
def Concerns (workspaceId : Str) (objects : List (Str × Str)) : KiroGrafanaProvisioner.Request → Prop
  | .updatePermissions id _ => id = workspaceId
  | .createWorkspaceServiceAccount id _ _ => id = workspaceId
  | .createWorkspaceServiceAccountToken id _ _ _ => id = workspaceId
  | .deleteWorkspaceServiceAccountToken id _ _ => id = workspaceId
  | .deleteWorkspaceServiceAccount id _ => id = workspaceId
  | .getObject bucketName key => (bucketName, key) ∈ objects
  | _ => True

/-- A request about the workspace of the construct, or for one of its assets. -/
def GrafanaProvisioning.Concerned (g : GrafanaProvisioning) :
    KiroGrafanaProvisioner.Request → Prop :=
  Concerns g.workspaceRef g.objects

section Session

open KiroGrafanaProvisioner

variable {call : KiroGrafanaProvisioner.Request} {result : Except Exn (Reply call)}

theorem concerns_of_prepares (h : Prepares properties (.call call result)) :
    Concerns properties.workspaceId properties.assets call := by
  cases call with
  | updatePermissions => exact h.1
  | createWorkspaceServiceAccount => exact h.1
  | _ => exact h.elim

theorem concerns_of_answer (h : IsAnswer (.call call result)) (workspaceId : Str)
    (objects : List (Str × Str)) : Concerns workspaceId objects call := by
  cases call with
  | respond => trivial
  | _ => exact h.elim

theorem concerns_of_worksWith {token : Str} (h : WorksWith properties token (.call call result)) :
    Concerns properties.workspaceId properties.assets call := by
  cases call with
  | send => trivial
  | getObject => exact h
  | elapsed => trivial
  | delay => trivial
  | _ => exact h.elim

theorem concerns_of_finishes {serviceAccountId : Str} {tokenId : Option Str}
    (h : Finishes properties serviceAccountId tokenId (.call call result)) :
    Concerns properties.workspaceId properties.assets call := by
  cases call with
  | deleteWorkspaceServiceAccountToken => exact h.1
  | deleteWorkspaceServiceAccount => exact h.1
  | respond => trivial
  | _ => exact h.elim

/-- The requests of a session are about the workspace and the assets of its properties. -/
theorem concerns_of_session {World : Type} {host : Host World} {events : List ProvisioningEvent}
    (h : events ∈ host.session properties) (hm : .call call result ∈ events) :
    Concerns properties.workspaceId properties.assets call := by
  obtain ⟨before, after, hSplit⟩ := List.append_of_mem hm
  obtain hPrepares | hAnswer | ⟨_, hAccount⟩ | ⟨account, _, ⟨_, hToken⟩ | ⟨_, _, hWork, _⟩ |
    ⟨_, _, hFinishes⟩⟩ := session_split h hSplit
  · exact concerns_of_prepares hPrepares
  · exact concerns_of_answer hAnswer _ _
  · cases hAccount
    rfl
  · cases hToken
    rfl
  · exact concerns_of_worksWith hWork
  · exact concerns_of_finishes hFinishes

end Session

/-- What the resource has set of the workspace and of the assets. -/
theorem GrafanaProvisioning.Delivers.sets (h : g.Delivers request)
    (hProperties : resourceProperties request = .ok properties) :
    properties.workspaceId = g.workspaceRef ∧
      properties.assets = g.objects := by
  have hFields := h.fields hProperties
  simp only [KiroInfra.fields, GrafanaProvisioning.propertyOverrides, List.cons.injEq,
    Prod.mk.injEq, true_and] at hFields
  obtain ⟨hId, _, _, _, _, _, _, _, _, hFleetBucket, hFleetKey, hUserBucket, hUserKey, _⟩ := hFields
  refine ⟨hId, ?_⟩
  rw [ProvisioningProperties.assets, hFleetBucket, hFleetKey, hUserBucket, hUserKey]
  rfl

theorem workspace_permitted {action : Str} (hAction : action ∈ GrafanaProvisioning.workspaceActions) :
    permitted g.rolePolicies ⟨action, g.workspaceArn g.workspaceRef, []⟩ = true := by
  have hAllows : g.workspaceStatement.allows ⟨action, g.workspaceArn g.workspaceRef, []⟩ = true :=
    allows_of_mem hAction List.mem_cons_self (like_self _) rfl
  exact permitted_of_mem (List.mem_append_left _ List.mem_cons_self) hAllows

theorem asset_permitted {asset : Asset} (h : asset ∈ g.assets) :
    permitted g.rolePolicies (objectRequest getAction asset.s3BucketName asset.s3ObjectKey) = true := by
  have hAllows : g.assetsStatement.allows
      (objectRequest getAction asset.s3BucketName asset.s3ObjectKey) = true :=
    allows_of_mem List.mem_cons_self (List.mem_map_of_mem h) (like_self _) rfl
  exact permitted_of_mem (List.mem_append_left _ (by simp)) hAllows

/-- What concerns the workspace and the assets of the construct is permitted. -/
theorem permitted_of_concerned {call : KiroGrafanaProvisioner.Request} (hConcerned : g.Concerned call)
    {asked : Request} (hAsked : g.serviceRequest call = some asked) :
    permitted g.rolePolicies asked = true := by
  cases call with
  | getObject bucketName key =>
      cases hAsked
      obtain ⟨asset, hAsset, hNames⟩ := List.mem_map.mp hConcerned
      obtain ⟨rfl, rfl⟩ := Prod.mk.inj hNames
      exact asset_permitted hAsset
  | updatePermissions =>
      cases hAsked
      rw [show _ = _ from hConcerned]
      exact workspace_permitted (by simp [GrafanaProvisioning.workspaceActions])
  | createWorkspaceServiceAccount =>
      cases hAsked
      rw [show _ = _ from hConcerned]
      exact workspace_permitted (by simp [GrafanaProvisioning.workspaceActions])
  | createWorkspaceServiceAccountToken =>
      cases hAsked
      rw [show _ = _ from hConcerned]
      exact workspace_permitted (by simp [GrafanaProvisioning.workspaceActions])
  | deleteWorkspaceServiceAccountToken =>
      cases hAsked
      rw [show _ = _ from hConcerned]
      exact workspace_permitted (by simp [GrafanaProvisioning.workspaceActions])
  | deleteWorkspaceServiceAccount =>
      cases hAsked
      rw [show _ = _ from hConcerned]
      exact workspace_permitted (by simp [GrafanaProvisioning.workspaceActions])
  | _ => cases hAsked

/-- The managed policy names none of these actions. -/
def GrafanaProvisioning.GrantsLogs (g : GrafanaProvisioning) : Prop :=
  ∀ statement ∈ g.granted, ∀ action ∈ getAction :: GrafanaProvisioning.workspaceActions,
    statement.actions.any (like · action) = false

theorem isLiteral_of_name {name : Str} (h : name.all KiroInfraStack.isNameCharacter = true) :
    IsLiteral name := by
  intro c hc
  have hName := List.all_eq_true.mp h c hc
  constructor
  · rintro rfl
    exact absurd hName (by decide)
  · rintro rfl
    exact absurd hName (by decide)

theorem slash_not_mem_name {name : Str} (h : name.all KiroInfraStack.isNameCharacter = true) :
    '/' ∉ name :=
  fun hc => absurd (List.all_eq_true.mp h _ hc) (by decide)

theorem isLiteral_workspaceArn : IsLiteral (g.workspaceArn g.workspaceRef) := by
  have hAccount : g.account.all KiroInfraStack.isNameCharacter = true := by
    rw [List.all_eq_true]
    intro c hc
    simp [KiroInfraStack.isNameCharacter, List.all_eq_true.mp g.account_valid c hc]
  have hAccountPart : IsLiteral (':' :: g.account) :=
    List.forall_mem_cons.mpr ⟨by decide, isLiteral_of_name hAccount⟩
  have hHead : IsLiteral g.arnHead := by
    apply isLiteral_append _ (isLiteral_of_all (by decide))
    apply isLiteral_append _ hAccountPart
    exact isLiteral_append (isLiteral_of_all (by decide)) (isLiteral_of_name g.region_valid)
  exact isLiteral_append hHead (isLiteral_of_name g.workspaceRef_valid)

/-- Only the statement on the workspace has its actions. -/
theorem workspace_of_permitted (hGranted : g.GrantsLogs) {action workspaceId : Str}
    (hAction : action ∈ GrafanaProvisioning.workspaceActions)
    (h : permitted g.rolePolicies ⟨action, g.workspaceArn workspaceId, []⟩ = true) :
    workspaceId = g.workspaceRef := by
  obtain ⟨statement, hMem, hAllows⟩ := List.any_eq_true.mp h
  simp only [GrafanaProvisioning.rolePolicies, List.mem_append, List.mem_cons, List.not_mem_nil,
    or_false] at hMem
  have hOther {actions : List Str} (hNone : GrafanaProvisioning.workspaceActions.all (fun action =>
      !actions.any (like · action)) = true) : actions.any (like · action) = false := by
    simpa using List.all_eq_true.mp hNone action hAction
  rcases hMem with (rfl | rfl | rfl) | hMem
  · simp only [Statement.allows, Bool.and_eq_true, GrafanaProvisioning.workspaceStatement,
      List.any_cons, List.any_nil, Bool.or_false] at hAllows
    have hArn := (like_literal_iff isLiteral_workspaceArn _).mp hAllows.1.2
    exact (List.append_cancel_left hArn).symm
  · rw [not_allows_of_actions (hOther (by decide))] at hAllows
    cases hAllows
  · have hRead : g.assetsStatement.actions.any (like · action) = false :=
      hOther (show GrafanaProvisioning.workspaceActions.all (fun action =>
        !([getAction].any (like · action))) = true by decide)
    rw [not_allows_of_actions hRead] at hAllows
    cases hAllows
  · rw [not_allows_of_actions (hGranted statement hMem action (List.mem_cons_of_mem _ hAction))]
      at hAllows
    cases hAllows

/-- Only the statement on the assets allows reading, and only these. -/
theorem asset_of_permitted (hGranted : g.GrantsLogs) {bucketName key : Str} (hBucket : '/' ∉ bucketName)
    (h : permitted g.rolePolicies (objectRequest getAction bucketName key) = true) :
    (bucketName, key) ∈ g.objects := by
  obtain ⟨statement, hMem, hAllows⟩ := List.any_eq_true.mp h
  simp only [GrafanaProvisioning.rolePolicies, List.mem_append, List.mem_cons, List.not_mem_nil,
    or_false] at hMem
  rcases hMem with (rfl | rfl | rfl) | hMem
  · rw [not_allows_of_actions (by rfl)] at hAllows
    cases hAllows
  · rw [not_allows_of_actions (by rfl)] at hAllows
    cases hAllows
  · simp only [Statement.allows, Bool.and_eq_true, GrafanaProvisioning.assetsStatement,
      List.any_map] at hAllows
    obtain ⟨asset, hAsset, hLike⟩ := List.any_eq_true.mp hAllows.1.2
    have hLiteral : IsLiteral (arnForObjects asset.s3BucketName asset.s3ObjectKey) := by
      apply isLiteral_append (isLiteral_append (isLiteral_of_all (by decide))
        (isLiteral_of_name asset.s3BucketName_valid))
      exact List.forall_mem_cons.mpr ⟨by decide, asset.s3ObjectKey_valid⟩
    have hArn := (like_literal_iff hLiteral _).mp hLike
    have hRest : asset.s3BucketName ++ '/' :: asset.s3ObjectKey = bucketName ++ '/' :: key := by
      simpa only [objectRequest, arnForObjects, bucketArn, List.append_assoc,
        List.append_cancel_left_eq] using hArn
    have hSame : asset.s3BucketName = bucketName := by
      apply QueryLayer.segment_eq (slash_not_mem_name asset.s3BucketName_valid) hBucket
      rw [← hRest]
      exact (List.prefix_append_right_inj _).mpr (List.prefix_append ['/'] asset.s3ObjectKey)
    subst hSame
    rw [List.append_cancel_left_eq, List.cons.injEq] at hRest
    exact List.mem_map.mpr ⟨asset, hAsset, Prod.ext rfl hRest.2⟩
  · rw [not_allows_of_actions (hGranted statement hMem _ List.mem_cons_self)] at hAllows
    cases hAllows

/-- A bucket has no slash in its name. -/
def NamesBucket : KiroGrafanaProvisioner.Request → Prop
  | .getObject bucketName _ => '/' ∉ bucketName
  | _ => True

/-- What is permitted concerns the workspace and the assets of the construct. -/
theorem concerned_of_permitted (hGranted : g.GrantsLogs) {call : KiroGrafanaProvisioner.Request}
    (hBucket : NamesBucket call) {asked : Request} (hAsked : g.serviceRequest call = some asked)
    (h : permitted g.rolePolicies asked = true) : g.Concerned call := by
  cases call with
  | getObject bucketName key =>
      cases hAsked
      exact asset_of_permitted hGranted hBucket h
  | updatePermissions =>
      cases hAsked
      exact workspace_of_permitted hGranted (by simp [GrafanaProvisioning.workspaceActions]) h
  | createWorkspaceServiceAccount =>
      cases hAsked
      exact workspace_of_permitted hGranted (by simp [GrafanaProvisioning.workspaceActions]) h
  | createWorkspaceServiceAccountToken =>
      cases hAsked
      exact workspace_of_permitted hGranted (by simp [GrafanaProvisioning.workspaceActions]) h
  | deleteWorkspaceServiceAccountToken =>
      cases hAsked
      exact workspace_of_permitted hGranted (by simp [GrafanaProvisioning.workspaceActions]) h
  | deleteWorkspaceServiceAccount =>
      cases hAsked
      exact workspace_of_permitted hGranted (by simp [GrafanaProvisioning.workspaceActions]) h
  | _ => trivial

end Permitted

/-- The role of the provider is exact. Whatever the services answer, everything that an
invocation for the resource asks of AWS is permitted; and of such requests no other is,
for another workspace or for another object. -/
theorem GrafanaProvisioning.role_exact (g : GrafanaProvisioning) (hGranted : g.GrantsLogs)
    {World : Type} (host : Host World) {input : Str} {request : Json}
    (hParse : host.parse input = .ok request) (hDelivers : g.Delivers request) (w : World) :
    (∀ call result, .call call result ∈ host.events input w → ∀ asked,
        g.serviceRequest call = some asked → permitted g.rolePolicies asked = true) ∧
      ∀ call asked, NamesBucket call → g.serviceRequest call = some asked →
        (permitted g.rolePolicies asked = true ↔ g.Concerned call) := by
  constructor
  · intro call result hm asked hAsked
    apply permitted_of_concerned _ hAsked
    obtain ⟨hAnswers | ⟨json, properties, hJson, hProperties, hSession⟩, _⟩ :=
      KiroGrafanaProvisioner.events_session host input w
    · exact concerns_of_answer (hAnswers _ hm) _ _
    · cases hParse.symm.trans hJson
      obtain ⟨hId, hAssets⟩ := hDelivers.sets hProperties
      rw [GrafanaProvisioning.Concerned, ← hId, ← hAssets]
      exact concerns_of_session hSession hm
  · exact fun call asked hBucket hAsked => ⟨concerned_of_permitted hGranted hBucket hAsked,
      fun hConcerned => permitted_of_concerned hConcerned hAsked⟩

section Example

def exampleAsset (key : Str) (hKey : IsLiteral key) : Asset := ⟨['k'], key, rfl, hKey⟩

theorem exampleKey_literal (c : Char) (h : [c].all (fun c => c ≠ '*' && c ≠ '?') = true) :
    IsLiteral [c] :=
  isLiteral_of_all h

/-- The construct of the example. -/
def exampleProvisioning : GrafanaProvisioning where
  account := ['2']
  region := ['q']
  workspaceRef := ['w']
  workspaceEndpoint := ['e']
  analyticsBucket := ['s']
  adminGroupId := ['a']
  editorGroupId := ['b']
  viewerGroupId := ['c']
  databaseName := GrafanaWorkspace.databaseName
  workGroupName := GrafanaWorkspace.workGroupName
  fleetDashboard := exampleAsset ['f'] (exampleKey_literal 'f' rfl)
  userDrilldownDashboard := exampleAsset ['u'] (exampleKey_literal 'u' rfl)
  granted := [⟨["logs:CreateLogGroup".toList, "logs:CreateLogStream".toList,
    "logs:PutLogEvents".toList], [['*']], []⟩]
  account_valid := rfl
  region_valid := rfl
  workspaceRef_valid := rfl

/-- An Update request for the resource of the example. -/
def exampleUpdate : Json :=
  .object ((KiroGrafanaProvisioner.exampleFields "Update".toList).map
      (fun member => (member.1, .string member.2)) ++
    [("ResourceProperties".toList, KiroGrafanaProvisioner.exampleObject
      exampleProvisioning.propertyOverrides)])

def exampleProvider : Host Unit :=
  { KiroGrafanaProvisioner.exampleHost with parse := fun _ => .ok exampleUpdate }

theorem exampleUpdate_delivers : exampleProvisioning.Delivers exampleUpdate := by
  refine ⟨exampleProvisioning.propertyOverrides.map fun member => (member.1, .string member.2),
    rfl, ?_⟩
  simp only [GrafanaProvisioning.propertyOverrides, List.forall_mem_cons]
  exact ⟨rfl, rfl, rfl, rfl, rfl, rfl, rfl, rfl, rfl, rfl, rfl, rfl, rfl, rfl, rfl, nofun⟩

theorem exampleProvisioning_grantsLogs : exampleProvisioning.GrantsLogs := by
  have h : exampleProvisioning.granted.all (fun statement =>
      (getAction :: GrafanaProvisioning.workspaceActions).all fun action =>
        !statement.actions.any (like · action)) = true := by
    decide
  intro statement hm action hAction
  simpa using List.all_eq_true.mp (List.all_eq_true.mp h statement hm) action hAction

/-- The example may read its own dashboard, and no other object of that bucket. -/
theorem role_exact_example :
    permitted exampleProvisioning.rolePolicies (objectRequest getAction ['k'] ['f']) = true ∧
      permitted exampleProvisioning.rolePolicies (objectRequest getAction ['k'] ['x']) ≠ true := by
  have hExact := (exampleProvisioning.role_exact exampleProvisioning_grantsLogs exampleProvider
    (show exampleProvider.parse [] = .ok exampleUpdate from rfl) exampleUpdate_delivers ()).2
  have hBucket : '/' ∉ ['k'] := by decide
  refine ⟨(hExact (.getObject ['k'] ['f']) _ hBucket rfl).mpr List.mem_cons_self, fun h => ?_⟩
  have hOther := (hExact (.getObject ['k'] ['x']) _ hBucket rfl).mp h
  exact absurd hOther (show (['k'], ['x']) ∉ [(['k'], ['f']), (['k'], ['u'])] by decide)

end Example

end KiroInfra
