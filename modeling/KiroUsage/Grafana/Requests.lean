import KiroUsage.Ingest.BackfillRequest
import KiroUsage.Semantics.Transcript

/-! What the Grafana provisioner says to Managed Grafana, to the Grafana API of a
workspace, to S3 and to CloudFormation, and what it hears from them. Of the
services nothing is assumed. -/
namespace KiroGrafanaProvisioner

open Text Execution
open KiroIngest (Json)

/-- An exception, by the name of its type and its `Message`. -/
structure Exn where
  type : Str
  message : Str
deriving DecidableEq

def Exn.invalidOperation (message : Str) : Exn := ⟨"InvalidOperationException".toList, message⟩

def Exn.httpRequest (message : Str) : Exn := ⟨"HttpRequestException".toList, message⟩

/-- The roles of a Grafana workspace. -/
inductive Role where
  | admin
  | editor
  | viewer
deriving DecidableEq

inductive UpdateAction where
  | add
  | revoke
deriving DecidableEq

inductive UserType where
  | ssoUser
  | ssoGroup
deriving DecidableEq

structure User where
  id : Str
  type : UserType
deriving DecidableEq

structure UpdateInstruction where
  action : UpdateAction
  role : Role
  users : List User
deriving DecidableEq

/-- An entry of the error list that `UpdatePermissions` returns. -/
structure UpdateError where
  code : Option Int
  message : Option Str
deriving DecidableEq

structure ServiceAccount where
  id : Str

structure ServiceAccountToken where
  id : Str
  key : Str

inductive HttpMethod where
  | get
  | post
  | put
deriving DecidableEq

def HttpMethod.name : HttpMethod → Str
  | get => "GET".toList
  | post => "POST".toList
  | put => "PUT".toList

/-- A request of the Grafana API, with its bearer token. Its path is relative to
the base URI. The two are resolved, and the headers checked, as it is sent. -/
structure GrafanaRequest where
  method : HttpMethod
  baseUri : Str
  path : Str
  token : Str
  payload : Option Json

structure GrafanaResponse where
  statusCode : Nat
  body : Str

/-- The status of a response to CloudFormation. -/
inductive Status where
  | success
  | failed
deriving DecidableEq

/-- A response to CloudFormation. -/
structure CustomResourceResponse where
  status : Status
  reason : Str
  physicalResourceId : Str
  stackId : Str
  requestId : Str
  logicalResourceId : Str
  noEcho : Bool
  data : List (Str × Str)

/-- The requests of the provisioner. The stopwatch and the timer are asked like
services. -/
inductive Request where
  | updatePermissions (workspaceId : Str) (updateInstructionBatch : List UpdateInstruction)
  | createWorkspaceServiceAccount (workspaceId name : Str) (grafanaRole : Role)
  | createWorkspaceServiceAccountToken (workspaceId serviceAccountId name : Str)
      (secondsToLive : Nat)
  | deleteWorkspaceServiceAccountToken (workspaceId serviceAccountId tokenId : Str)
  | deleteWorkspaceServiceAccount (workspaceId serviceAccountId : Str)
  | send (request : GrafanaRequest)
  | getObject (bucketName key : Str)
  | respond (responseUrl : Str) (response : CustomResourceResponse)
  | elapsed
  | delay (seconds : Nat)

/-- The replies: an error list that may be absent, what was created, a text, a
status code, seconds. -/
abbrev Reply : Request → Type
  | .updatePermissions .. => Option (List UpdateError)
  | .createWorkspaceServiceAccount .. => ServiceAccount
  | .createWorkspaceServiceAccountToken .. => ServiceAccountToken
  | .deleteWorkspaceServiceAccountToken .. => Unit
  | .deleteWorkspaceServiceAccount .. => Unit
  | .send _ => GrafanaResponse
  | .getObject .. => Str
  | .respond .. => Nat
  | .elapsed => Nat
  | .delay _ => Unit

/-- The lines that the provisioner logs. -/
inductive LogLine where
  | provisioningError (error : Exn)
  | tokenNotDeleted (error : Exn)
  | accountNotDeleted (error : Exn)

/-- How the PUT of a response fares: whether CloudFormation gets it, and what the
provisioner hears. -/
structure Delivery where
  delivered : Bool
  reply : Except Exn Nat

/-- What an invocation finds: the id of its request, the number of delays after
which its stopwatch is past the registration timeout, `JsonDocument.Parse`, the
services, and the way its responses go. -/
structure Host (World : Type) where
  awsRequestId : Str
  registrationDelays : Nat
  parse : Str → Except Exn Json
  services : Services Request Reply World Exn
  deliver : Str → Status → Delivery

def Host.answers {World : Type} (host : Host World) : Services Request Reply World Exn
  | .respond responseUrl response, w => ((host.deliver responseUrl response.status).reply, w)
  | request, w => host.services request w

/-- What an invocation says and hears. -/
abbrev ProvisioningEvent := Event Request Reply Exn LogLine

/-- A program of the provisioner. -/
abbrev Provisioning (World : Type) := Talk Request Reply World Exn LogLine

end KiroGrafanaProvisioner
