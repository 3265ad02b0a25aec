import KiroUsage.Grafana.Requests

/-! The custom resource handler: how it configures a workspace with a service
account of its own, removes that account again, and answers CloudFormation. -/
namespace KiroGrafanaProvisioner

open Text Execution
open KiroIngest (Json tryGetProperty)

def folderUid : Str := "kiro-usage".toList
def folderTitle : Str := "Kiro Usage".toList
def athenaDataSourceUid : Str := "kiro-athena".toList
def athenaDataSourceName : Str := "Athena".toList
def athenaPluginId : Str := "grafana-athena-datasource".toList
def serviceAccountName : Str := "kiro-grafana-provisioner".toList

/-- `JsonElement.TryGetProperty`, which throws unless the element is an object. -/
def tryGet (value : Json) (propertyName : Str) : Except Exn (Option Json) :=
  match value with
  | .object members => .ok (tryGetProperty members propertyName)
  | _ => .error (.invalidOperation
      "The requested operation requires an element of type 'Object'".toList)

def requiredString (value : Json) (propertyName : Str) : Except Exn Str := do
  let missing : Exn := .invalidOperation
    ("CloudFormation request is missing required string property '".toList ++ propertyName ++
      "'".toList)
  match ← tryGet value propertyName with
  | some (.string text) => if isBlank text then throw missing else return text
  | _ => throw missing

/-- The text of a property, if it is there and a string. -/
def stringOf : Option Json → Option Str
  | some (.string text) => some text
  | _ => none

def optionalString (value : Json) (propertyName : Str) : Except Exn (Option Str) :=
  (tryGet value propertyName).map stringOf

/-- `JsonElement.GetProperty`. -/
def getProperty (value : Json) (propertyName : Str) : Except Exn Json := do
  match ← tryGet value propertyName with
  | some property => return property
  | none => throw ⟨"KeyNotFoundException".toList,
      "The given key was not present in the dictionary.".toList⟩

structure ProvisioningProperties where
  workspaceId : Str
  workspaceEndpoint : Str
  adminGroupId : Str
  editorGroupId : Str
  viewerGroupId : Str
  analyticsBucketName : Str
  databaseName : Str
  workGroupName : Str
  region : Str
  fleetDashboardAssetBucket : Str
  fleetDashboardAssetKey : Str
  userDrilldownDashboardAssetBucket : Str
  userDrilldownDashboardAssetKey : Str
  fleetDashboardUid : Str
  userDrilldownDashboardUid : Str

/-- `ProvisioningProperties.From`. -/
def ProvisioningProperties.fromJson (properties : Json) : Except Exn ProvisioningProperties := do
  return {
    workspaceId := ← requiredString properties "WorkspaceId".toList
    workspaceEndpoint := ← requiredString properties "WorkspaceEndpoint".toList
    adminGroupId := ← requiredString properties "AdminGroupId".toList
    editorGroupId := ← requiredString properties "EditorGroupId".toList
    viewerGroupId := ← requiredString properties "ViewerGroupId".toList
    analyticsBucketName := ← requiredString properties "AnalyticsBucketName".toList
    databaseName := ← requiredString properties "DatabaseName".toList
    workGroupName := ← requiredString properties "WorkGroupName".toList
    region := ← requiredString properties "Region".toList
    fleetDashboardAssetBucket := ← requiredString properties "FleetDashboardAssetBucket".toList
    fleetDashboardAssetKey := ← requiredString properties "FleetDashboardAssetKey".toList
    userDrilldownDashboardAssetBucket :=
      ← requiredString properties "UserDrilldownDashboardAssetBucket".toList
    userDrilldownDashboardAssetKey :=
      ← requiredString properties "UserDrilldownDashboardAssetKey".toList
    fleetDashboardUid := ← requiredString properties "FleetDashboardUid".toList
    userDrilldownDashboardUid := ← requiredString properties "UserDrilldownDashboardUid".toList }

/-- The properties of a request. -/
def resourceProperties (request : Json) : Except Exn ProvisioningProperties :=
  getProperty request "ResourceProperties".toList >>= ProvisioningProperties.fromJson

def workspaceUrl (endpoint : Str) : Str :=
  if startsWithIgnoreCase endpoint "https://".toList then trimEnd '/' endpoint
  else "https://".toList ++ trimEnd '/' endpoint

def permission (role : Role) (groupId : Str) : UpdateInstruction :=
  ⟨.add, role, [⟨groupId, .ssoGroup⟩]⟩

/-- The instructions of one request, in their order. -/
def ProvisioningProperties.instructions (properties : ProvisioningProperties) :
    List UpdateInstruction :=
  [permission .admin properties.adminGroupId, permission .editor properties.editorGroupId,
    permission .viewer properties.viewerGroupId]

/-- An error that reports a group which is already there. -/
def UpdateError.reportsPresent (error : UpdateError) : Bool :=
  match error.message with
  | some message => containsIgnoreCase message "already".toList
  | none => false

def UpdateError.describe (error : UpdateError) : Str :=
  (match error.code with
    | some code => (toString code).toList
    | none => "unknown".toList) ++ ": ".toList ++
    error.message.getD "No error message returned".toList

/-- The payload that creates a folder. -/
def folderPayload (uid title : Str) : Json :=
  .object [("uid".toList, .string uid), ("title".toList, .string title)]

/-- The settings of the Athena data source. -/
def ProvisioningProperties.dataSource (properties : ProvisioningProperties) : Json :=
  .object [("uid".toList, .string athenaDataSourceUid),
    ("name".toList, .string athenaDataSourceName), ("type".toList, .string athenaPluginId),
    ("access".toList, .string "proxy".toList), ("isDefault".toList, .bool true),
    ("jsonData".toList, .object [("authType".toList, .string "workspace-iam-role".toList),
      ("defaultRegion".toList, .string properties.region),
      ("catalog".toList, .string "AwsDataCatalog".toList),
      ("database".toList, .string properties.databaseName),
      ("workgroup".toList, .string properties.workGroupName),
      ("outputLocation".toList, .string
        ("s3://".toList ++ properties.analyticsBucketName ++ "/athena-results/".toList))])]

/-- The payload that stores a dashboard. -/
def dashboardPayload (dashboard : Json) (folderUid : Str) : Json :=
  .object [("dashboard".toList, dashboard), ("folderUid".toList, .string folderUid),
    ("overwrite".toList, .bool true),
    ("message".toList, .string "Reconciled by the Kiro Grafana provisioner".toList)]

def foldersPath : Str := "/api/folders".toList
def folderPath (uid : Str) : Str := foldersPath ++ "/".toList ++ uid
def pluginSettingsPath : Str := "/api/plugins/".toList ++ athenaPluginId ++ "/settings".toList
def pluginInstallPath : Str := "/api/plugins/".toList ++ athenaPluginId ++ "/install".toList
def dataSourcesPath : Str := "/api/datasources".toList
def dataSourcePath (uid : Str) : Str := dataSourcesPath ++ "/uid/".toList ++ uid
def healthPath : Str := dataSourcePath athenaDataSourceUid ++ "/health".toList
def dashboardsPath : Str := "/api/dashboards/db".toList

/-- A request of the Grafana API as `GrafanaCallAsync` makes it. -/
def grafanaRequest (endpoint token : Str) (method : HttpMethod) (path : Str)
    (payload : Option Json) : GrafanaRequest :=
  ⟨method, workspaceUrl endpoint ++ "/".toList, trimStart '/' path, token, payload⟩

/-- The minutes after which an unregistered plugin is given up, in seconds. -/
def registrationTimeout : Nat := 240

def registrationError (body : Str) : Exn :=
  ⟨"TimeoutException".toList, "Athena plugin did not register within 00:04:00: ".toList ++ body⟩

namespace Host

variable {World : Type} (host : Host World)

def exchange (request : Request) : Provisioning World (Reply request) :=
  Async.exchange host.answers request

def grafanaCallAsync (endpoint token : Str) (method : HttpMethod) (path : Str)
    (payload : Option Json) (expectedStatusCodes : List Nat) : Provisioning World GrafanaResponse := do
  let response ← host.exchange (.send (grafanaRequest endpoint token method path payload))
  if expectedStatusCodes.contains response.statusCode then return response
  else Async.throwing (.httpRequest ("Grafana API ".toList ++ method.name ++ " ".toList ++ path ++
    " returned ".toList ++ (toString response.statusCode).toList ++ ": ".toList ++ response.body))

def setWorkspacePermissionsAsync (properties : ProvisioningProperties) :
    Provisioning World Unit := do
  let errors ← host.exchange (.updatePermissions properties.workspaceId properties.instructions)
  let unexpected := (errors.getD []).filter fun error => !error.reportsPresent
  if unexpected.length > 0 then
    Async.throwing (.invalidOperation ("Managed Grafana permission update failed: ".toList ++
      List.intercalate "; ".toList (unexpected.map UpdateError.describe)))
  else pure ()

def ensureFolderAsync (endpoint token : Str) : Provisioning World Unit := do
  let response ← host.grafanaCallAsync endpoint token .post foldersPath
    (some (folderPayload folderUid folderTitle)) [200, 409, 412]
  if response.statusCode = 409 ∨ response.statusCode = 412 then do
    let _ ← host.grafanaCallAsync endpoint token .get (folderPath folderUid) none [200]
    pure ()
  else pure ()

def grafanaResourceExistsAsync (endpoint token path : Str) : Provisioning World Bool := do
  let response ← host.grafanaCallAsync endpoint token .get path none [200, 404]
  return response.statusCode == 200

def ensureAthenaPluginAsync (endpoint token : Str) : Provisioning World Unit := do
  if ← host.grafanaResourceExistsAsync endpoint token pluginSettingsPath then pure ()
  else do
    let _ ← host.grafanaCallAsync endpoint token .post pluginInstallPath (some (.object [])) [200, 409]
    pure ()

def upsertAthenaDataSourceAsync (properties : ProvisioningProperties) (token : Str) :
    Provisioning World Unit := do
  let endpoint := properties.workspaceEndpoint
  let dataSource := some properties.dataSource
  if ← host.grafanaResourceExistsAsync endpoint token (dataSourcePath athenaDataSourceUid) then do
    let _ ← host.grafanaCallAsync endpoint token .put (dataSourcePath athenaDataSourceUid) dataSource [200]
    pure ()
  else do
    let _ ← host.grafanaCallAsync endpoint token .post dataSourcesPath dataSource [200]
    pure ()

/-- The end of the health check, once the plugin is registered. -/
def verifyHealth (body : Str) : Except Exn Unit := do
  let health ← host.parse body
  let status ← requiredString health "status".toList
  if equalsIgnoreCase status "OK".toList then return ()
  else
    let message := (← optionalString health "message".toList).getD
      "No health-check message returned".toList
    throw (.invalidOperation ("Athena data source health check returned '".toList ++ status ++
      "': ".toList ++ message))

/-- The polls of the health check, by the number of delays that are left until the
timeout is certainly over. -/
def pollHealth (endpoint token : Str) : Nat → Provisioning World Unit
  | 0 => do
    let response ← host.grafanaCallAsync endpoint token .get healthPath none [200, 404]
    if response.statusCode = 404 then Async.throwing (registrationError response.body)
    else Async.ofExcept (host.verifyHealth response.body)
  | delays + 1 => do
    let response ← host.grafanaCallAsync endpoint token .get healthPath none [200, 404]
    if response.statusCode = 404 then do
      let elapsed ← host.exchange .elapsed
      if elapsed ≥ registrationTimeout then Async.throwing (registrationError response.body)
      else do
        host.exchange (.delay 10)
        pollHealth endpoint token delays
    else Async.ofExcept (host.verifyHealth response.body)

def verifyAthenaDataSourceAsync (endpoint token : Str) : Provisioning World Unit :=
  host.pollHealth endpoint token host.registrationDelays

def readAssetAsync (bucket key : Str) : Provisioning World Str :=
  host.exchange (.getObject bucket key)

/-- The dashboard of an asset, which must have the expected uid. -/
def renderDashboard (dashboardJson expectedUid : Str) : Except Exn Json := do
  let dashboard ← host.parse (replace "$\x7bDS_ATHENA\x7d".toList athenaDataSourceUid dashboardJson)
  let actualUid ← requiredString dashboard "uid".toList
  if expectedUid = actualUid then return dashboard
  else throw (.invalidOperation ("Dashboard asset UID '".toList ++ actualUid ++
    "' does not match expected UID '".toList ++ expectedUid ++ "'".toList))

def upsertDashboardAsync (endpoint token dashboardJson expectedUid : Str) :
    Provisioning World Unit := do
  let dashboard ← Async.ofExcept (host.renderDashboard dashboardJson expectedUid)
  let _ ← host.grafanaCallAsync endpoint token .post dashboardsPath
    (some (dashboardPayload dashboard folderUid)) [200]
  pure ()

/-- A deletion whose error is logged and kept. -/
def tryDeletion (deletion : Provisioning World Unit) (line : Exn → LogLine) :
    Provisioning World (Option Exn) :=
  Async.catching (do
      deletion
      return none) fun error => do
    Async.note (line error)
    return some error

/-- The deletion of the token, if there is one. -/
def tryDeleteToken (workspaceId serviceAccountId : Str) (tokenId : Option Str) :
    Provisioning World (Option Exn) :=
  if isNullOrWhiteSpace tokenId then pure none
  else tryDeletion (host.exchange (.deleteWorkspaceServiceAccountToken workspaceId serviceAccountId
    (tokenId.getD []))) .tokenNotDeleted

/-- The clean-up. What can be removed is removed, whatever else fails. -/
def deleteEphemeralCredentialsAsync (workspaceId serviceAccountId : Str) (tokenId : Option Str) :
    Provisioning World Unit := do
  let tokenFailure ← host.tryDeleteToken workspaceId serviceAccountId tokenId
  let accountFailure ← tryDeletion
    (host.exchange (.deleteWorkspaceServiceAccount workspaceId serviceAccountId)) .accountNotDeleted
  if (tokenFailure.or accountFailure).isSome then
    Async.throwing (.invalidOperation ("Grafana provisioning succeeded but temporary credentials ".toList ++
      "could not be fully removed".toList))
  else pure ()

/-- The steps that work with a token. -/
def configureAsync (properties : ProvisioningProperties) (token : Str) :
    Provisioning World (List (Str × Str)) := do
  let endpoint := properties.workspaceEndpoint
  host.ensureFolderAsync endpoint token
  host.ensureAthenaPluginAsync endpoint token
  host.upsertAthenaDataSourceAsync properties token
  host.verifyAthenaDataSourceAsync endpoint token
  let fleetDashboard ← host.readAssetAsync properties.fleetDashboardAssetBucket
    properties.fleetDashboardAssetKey
  let userDrilldownDashboard ← host.readAssetAsync properties.userDrilldownDashboardAssetBucket
    properties.userDrilldownDashboardAssetKey
  host.upsertDashboardAsync endpoint token fleetDashboard properties.fleetDashboardUid
  host.upsertDashboardAsync endpoint token userDrilldownDashboard properties.userDrilldownDashboardUid
  return [("WorkspaceUrl".toList, workspaceUrl endpoint),
    ("FleetOverviewUrl".toList, workspaceUrl endpoint ++ "/d/".toList ++ properties.fleetDashboardUid),
    ("UserDrilldownUrl".toList,
      workspaceUrl endpoint ++ "/d/".toList ++ properties.userDrilldownDashboardUid),
    ("AthenaDataSourceUid".toList, athenaDataSourceUid), ("FolderUid".toList, folderUid)]

/-- The request for a token of a service account. -/
abbrev tokenRequest (properties : ProvisioningProperties) (serviceAccountId : Str) : Request :=
  .createWorkspaceServiceAccountToken properties.workspaceId serviceAccountId
    ("cf-".toList ++ host.awsRequestId) 900

def provisionAsync (properties : ProvisioningProperties) :
    Provisioning World (List (Str × Str)) := do
  host.setWorkspacePermissionsAsync properties
  let serviceAccount ← host.exchange
    (.createWorkspaceServiceAccount properties.workspaceId serviceAccountName .admin)
  Async.finallyWith none (do
      let token ← Async.lift (host.exchange (host.tokenRequest properties serviceAccount.id))
      Async.assign fun _ => some token.id
      Async.lift (host.configureAsync properties token.key))
    fun tokenId => host.deleteEphemeralCredentialsAsync properties.workspaceId serviceAccount.id tokenId

def respondAsync (request : Json) (status : Status) (physicalResourceId : Str)
    (data : Option (List (Str × Str))) (reason : Option Str) : Provisioning World Unit := do
  let responseUrl ← Async.ofExcept (requiredString request "ResponseURL".toList)
  let stackId ← Async.ofExcept (requiredString request "StackId".toList)
  let requestId ← Async.ofExcept (requiredString request "RequestId".toList)
  let logicalResourceId ← Async.ofExcept (requiredString request "LogicalResourceId".toList)
  let statusCode ← host.exchange (.respond responseUrl
    { status, physicalResourceId, stackId, requestId, logicalResourceId
      reason := reason.getD "See CloudWatch Logs for the custom-resource provider".toList
      noEcho := false
      data := data.getD [] })
  if 200 ≤ statusCode ∧ statusCode ≤ 299 then pure ()
  else Async.throwing (.httpRequest ("Response status code does not indicate success: ".toList ++
    (toString statusCode).toList))

/-- A Create or Update request. -/
def handleUpsert (request : Json) : Provisioning World Unit := do
  let properties ← Async.ofExcept (resourceProperties request)
  let result ← host.provisionAsync properties
  host.respondAsync request .success properties.workspaceId (some result) none

/-- A Delete request. -/
def handleDelete (request : Json) (physicalResourceId : Str) : Provisioning World Unit :=
  host.respondAsync request .success physicalResourceId
    (some [("Message".toList, "No persistent Grafana provisioning credential to clean up".toList)]) none

def handleType (request : Json) (physicalResourceId requestType : Str) : Provisioning World Unit :=
  if requestType = "Delete".toList then host.handleDelete request physicalResourceId
  else if requestType ≠ "Create".toList ∧ requestType ≠ "Update".toList then
    Async.throwing (.invalidOperation ("Unsupported CloudFormation request type '".toList ++
      requestType ++ "'".toList))
  else host.handleUpsert request

/-- The `try` block of `HandleAsync`. -/
def tryHandle (request : Json) (physicalResourceId : Str) : Provisioning World Unit := do
  let requestType ← Async.ofExcept (requiredString request "RequestType".toList)
  host.handleType request physicalResourceId requestType

/-- `HandleAsync` after the request and its resource id have been read. -/
def handleRequest (request : Json) (physicalResourceId : Str) : Provisioning World Unit :=
  Async.catching (host.tryHandle request physicalResourceId) fun error => do
    Async.note (.provisioningError error)
    host.respondAsync request .failed physicalResourceId none (some error.message)

def handleAsync (input : Str) : Provisioning World Unit := do
  let request ← Async.ofExcept (host.parse input)
  let physicalResourceId ← Async.ofExcept (optionalString request "PhysicalResourceId".toList)
  host.handleRequest request (physicalResourceId.getD "kiro-grafana-provisioning".toList)

end Host

end KiroGrafanaProvisioner
