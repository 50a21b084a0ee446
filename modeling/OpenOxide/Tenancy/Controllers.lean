import OpenOxide.Access.Signup
import OpenOxide.Tenancy.Services

/-!
# The project and application controllers

Every handler first asks for a permission in the organization that the request
names in its header; what follows acts on the identifiers of the path and the
body.  Bodies are those that passed their validation.
-/

namespace OpenOxide.Tenancy

open Access (DbError Directory PolicyAction)
open Deployment (ApplicationOperation)

/-- The resources and operations whose names make up an action. -/
inductive PermissionResource where
  | project
  | application

def PermissionResource.name : PermissionResource → String
  | .project => "project"
  | .application => "app"

/-- What a route does with its resource. -/
inductive PermissionOperation where
  | canRead
  | canCreate
  | canDelete
  | canDeploy

def PermissionOperation.name : PermissionOperation → String
  | .canRead => "read"
  | .canCreate => "create"
  | .canDelete => "delete"
  | .canDeploy => "deploy"

def policyAction (resource : PermissionResource)
    (operation : PermissionOperation) : PolicyAction :=
  ⟨resource.name, operation.name⟩

/-- What a client is told when a request fails. -/
inductive ApiError where
  | rejection (status : Nat) (error : String) (requiredAction : Option String)
  | failure (status : Nat) (message : String)
deriving DecidableEq

def noOrganization : ApiError :=
  .rejection 403 "user has no organization membership" none

def denied (action : String) : ApiError :=
  .rejection 403 "permission denied" (some action)

/-- `RequirePermission::from_request_parts`: the organization of the header, if
it is a number, and else the first one of the user. -/
def requirePermission (directory : Directory) (userId : Int)
    (header : Option Int) (action : PolicyAction) : Except ApiError Int :=
  match header.or (directory.firstOrganizationId userId) with
  | none => .error noOrganization
  | some organizationId =>
    if directory.checkPermission userId organizationId action then
      .ok organizationId
    else .error (denied action.asStr)

/-- `map_sqlx_error` of the two controllers. -/
def mapSqlxError : PermissionResource → SqlxError → ApiError
  | .project, .rowNotFound => .failure 404 "project not found"
  | .project, .database (.uniqueViolation column) =>
    .failure 409 (dbMessage (.uniqueViolation column))
  | .project, _ => .failure 500 "database operation failed"
  | .application, .rowNotFound => .failure 404 "application not found"
  | .application, .protocol message =>
    if Text.contains "already queued or running" message then
      .failure 409 message
    else .failure 400 message
  | .application, .database .foreignKeyViolation =>
    .failure 404 "related resource not found"
  | .application, .database (.uniqueViolation column) =>
    .failure 409 (dbMessage (.uniqueViolation column))
  | .application, .database (.checkViolation constraint) =>
    .failure 400 (dbMessage (.checkViolation constraint))
  | .application, .database _ => .failure 500 "database operation failed"
  | .application, .plain status message => .failure status message

/-- `map_error` of the network controller. -/
def mapNetworkError : SqlxError → ApiError
  | .rowNotFound => .failure 404 "application not found"
  | .protocol message => .failure 400 message
  | _ => .failure 500 "database operation failed"

/-- What a route answers with. -/
inductive Reply where
  | project (project : Project)
  | projects (projects : List Project)
  | application (application : Application)
  | applications (applications : List Application)
  | archive (schemaVersion : Int) (secretsIncluded : Bool)
      (application : Application) (relations : Columns)
  | operation (application : Application) (deploymentId : Int)
      (operation : String)
  | token (token : String)
  | affected (rows : Int)
  | forceKill (deploymentId : Int) (status : String)
  | rollbacks (rows : List Columns)
  | rollback (deploymentId : Int) (message : String)
  | dependencies (counts : Columns)
  | networks (detached : Bool) (rows : List Columns)
  | empty
deriving DecidableEq

structure Response where
  status : Nat
  reply : Reply
deriving DecidableEq

/-- The columns that `ApplicationResponseDto` shows. -/
def shownColumns : List String :=
  ["name", "description", "source_type", "build_type", "app_status",
    "trigger_type", "server_id", "build_server_id", "registry_id",
    "network_ids", "detach_rustploy_network", "env_var", "icon", "repository",
    "owner", "branch", "gitlab_repository", "gitlab_owner", "gitlab_branch",
    "gitea_repository", "gitea_owner", "gitea_branch", "bitbucket_repository",
    "bitbucket_owner", "bitbucket_branch", "docker_image", "registry_url",
    "custom_git_url", "custom_git_branch", "preview_env", "preview_build_args",
    "preview_build_secrets", "preview_labels", "preview_wildcard",
    "preview_port", "preview_https", "preview_path",
    "preview_certificate_type", "preview_custom_cert_resolver",
    "preview_limit", "is_preview_deployments_active",
    "preview_require_collaborator_permissions", "memory_reservation",
    "memory_limit", "cpu_reservation", "cpu_limit", "replicas"]

/-- `ApplicationResponseDto::from`. -/
def Application.shown (application : Application) : Application :=
  { application with
    columns := application.columns.filter fun column =>
      shownColumns.contains column.1 }

/-- The routes of `ProjectController`. -/
inductive ProjectCall where
  | get (id : Int)
  | listByOrganization (organizationId : Int)
  | create (body : CreateProject)
  | patch (id : Int) (body : PatchProject)
  | delete (id : Int)

/-- The routes below `/applications/{id}` other than the row itself. -/
inductive ApplicationAction where
  | exportApplication (includeSecrets : Bool) (relations : Columns)
  | patch (body : PatchApplication)
  | patchSource (body : PatchSource)
  | uploadDropSource (received : ApplicationService.Upload)
  | patchBuild (body : PatchBuildConfig)
  | patchResources (body : PatchResourceConfig)
  | patchPreview (body : PatchPreviewConfig)
  | operation (operation : ApplicationOperation)
      (engine : ApplicationService.Engine)
  | stop
  | cancel
  | rotateWebhookToken (token : Except String String)
  | moveToEnvironment (target : Int) (running : Bool)
  | clearDeploymentHistory (affected : Int)
  | cleanupDeploymentQueue (affected : Int)
  | forceKillDeployment (kill : ApplicationService.Kill)
  | listRollbacks (rows : List Columns)
  | triggerRollback (rolled : Application → Except SqlxError (Int × String))
  | deleteRollback (found : Bool)
  | delete (activeDeployments enabledBackups : Int)
  | dependencies (counts : Columns)
  | getNetworks
      (resolved : Application → Except SqlxError (Bool × List Columns))
  | updateNetworks (networkIds : String) (detach : Bool)
      (resolved : Application → Except SqlxError (List Columns))

/-- The routes of `ApplicationController`. -/
inductive ApplicationCall where
  | importApplication (body : ImportApplication) (suffix : String)
      (relations : Except SqlxError Unit)
  | get (id : Int)
  | listByEnvironment (environmentId : Int)
  | create (body : CreateApplication) (suffix : String)
  | act (id : Int) (action : ApplicationAction)

def ProjectCall.operation : ProjectCall → PermissionOperation
  | .get _ => .canRead
  | .listByOrganization _ => .canRead
  | .create _ => .canCreate
  | .patch _ _ => .canCreate
  | .delete _ => .canDelete

def ApplicationAction.permission : ApplicationAction → PermissionOperation
  | .exportApplication _ _ => .canRead
  | .patch _ => .canCreate
  | .patchSource _ => .canCreate
  | .uploadDropSource _ => .canCreate
  | .patchBuild _ => .canCreate
  | .patchResources _ => .canCreate
  | .patchPreview _ => .canCreate
  | .operation _ _ => .canDeploy
  | .stop => .canDeploy
  | .cancel => .canDeploy
  | .rotateWebhookToken _ => .canCreate
  | .moveToEnvironment _ _ => .canCreate
  | .clearDeploymentHistory _ => .canDelete
  | .cleanupDeploymentQueue _ => .canDeploy
  | .forceKillDeployment _ => .canDeploy
  | .listRollbacks _ => .canRead
  | .triggerRollback _ => .canDeploy
  | .deleteRollback _ => .canDelete
  | .delete _ _ => .canDelete
  | .dependencies _ => .canRead
  | .getNetworks _ => .canRead
  | .updateNetworks _ _ _ => .canCreate

def ApplicationCall.operation : ApplicationCall → PermissionOperation
  | .importApplication _ _ _ => .canCreate
  | .get _ => .canRead
  | .listByEnvironment _ => .canRead
  | .create _ _ => .canCreate
  | .act _ action => action.permission

def ProjectCall.perform : ProjectCall → Query Response
  | .get id => do
      let project ← getProject id
      pure ⟨200, .project project⟩
  | .listByOrganization organizationId => do
      let projects ← listProjects organizationId
      pure ⟨200, .projects projects⟩
  | .create body => do
      let project ← ProjectService.create body
      pure ⟨201, .project project⟩
  | .patch id body => do
      let project ← ProjectService.update id body
      pure ⟨200, .project project⟩
  | .delete id => do
      ProjectService.delete id
      pure ⟨204, .empty⟩

variable (platform : Platform)

def ApplicationAction.perform (id : Int) : ApplicationAction → Query Response
  | .exportApplication includeSecrets relations => do
      let application ←
        ApplicationTransferService.exportApplication id includeSecrets
      pure ⟨200, .archive ApplicationTransferService.exportSchemaVersion
        includeSecrets application relations⟩
  | .patch body => do
      let application ← ApplicationService.patch platform id body
      pure ⟨200, .application application.shown⟩
  | .patchSource body => do
      let application ← ApplicationService.setSource platform id body
      pure ⟨200, .application application.shown⟩
  | .uploadDropSource received => do
      let application ←
        ApplicationService.uploadDropSource platform id received
      pure ⟨200, .application application.shown⟩
  | .patchBuild body => do
      let application ← ApplicationService.patchBuildConfig platform id body
      pure ⟨200, .application application.shown⟩
  | .patchResources body => do
      let application ← ApplicationService.patchResourceConfig platform id body
      pure ⟨200, .application application.shown⟩
  | .patchPreview body => do
      ApplicationService.patchPreviewConfig platform id body
      pure ⟨204, .empty⟩
  | .operation wanted engine => do
      let (application, deploymentId, queued) ←
        ApplicationService.runOperation platform id wanted engine
      pure ⟨200, .operation application.shown deploymentId
        queued.operation.asStr⟩
  | .stop => do
      ApplicationService.stopOrCancelSmart platform id
      pure ⟨200, .empty⟩
  | .cancel => do
      ApplicationService.stopOrCancelSmart platform id
      pure ⟨200, .empty⟩
  | .rotateWebhookToken token => do
      let token ← ApplicationService.rotateWebhookToken platform id token
      pure ⟨200, .token token⟩
  | .moveToEnvironment target running => do
      let application ← ApplicationService.moveToEnvironment id target running
      pure ⟨200, .application application.shown⟩
  | .clearDeploymentHistory affected => do
      let rows ← ApplicationService.clearDeploymentHistory id affected
      pure ⟨200, .affected rows⟩
  | .cleanupDeploymentQueue affected => do
      let rows ← ApplicationService.cleanupDeploymentQueue id affected
      pure ⟨200, .affected rows⟩
  | .forceKillDeployment kill => do
      let (deploymentId, status) ←
        ApplicationService.forceKillDeployment platform id kill
      pure ⟨200, .forceKill deploymentId status⟩
  | .listRollbacks rows => do
      let rows ← ApplicationService.listRollbacks id rows
      pure ⟨200, .rollbacks rows⟩
  | .triggerRollback rolled => do
      let (deploymentId, message) ←
        ApplicationService.triggerRollback id rolled
      pure ⟨200, .rollback deploymentId message⟩
  | .deleteRollback found => do
      if ← ApplicationService.deleteRollback id found then
        pure ⟨204, .empty⟩
      else throw (.plain 404 "rollback not found")
  | .delete activeDeployments enabledBackups => do
      ApplicationService.delete platform id activeDeployments enabledBackups
      pure ⟨204, .empty⟩
  | .dependencies counts => do
      let counts ← ApplicationService.dependencies id counts
      pure ⟨200, .dependencies counts⟩
  | .getNetworks resolved => do
      let (detached, rows) ← ApplicationNetworkService.get id resolved
      pure ⟨200, .networks detached rows⟩
  | .updateNetworks networkIds detach resolved => do
      let (detached, rows) ←
        ApplicationNetworkService.update platform id networkIds detach resolved
      pure ⟨200, .networks detached rows⟩

/-- `get` alone looks at the organization of the permission. -/
def ApplicationCall.perform (organizationId : Int) :
    ApplicationCall → Query Response
  | .importApplication body suffix relations => do
      let application ← ApplicationTransferService.importApplication platform
        body suffix relations
      pure ⟨201, .application application.shown⟩
  | .get id => do
      ApplicationService.ensureOrganizationAccess id organizationId
      let application ← ApplicationService.getById id
      pure ⟨200, .application application.shown⟩
  | .listByEnvironment environmentId => do
      let applications ← listApplications environmentId
      pure ⟨200, .applications (applications.map Application.shown)⟩
  | .create body suffix => do
      let application ← ApplicationService.create platform body suffix
      pure ⟨201, .application application.shown⟩
  | .act id action => action.perform platform id

/-- The routes of both controllers. -/
inductive Call where
  | project (call : ProjectCall)
  | application (call : ApplicationCall)

def Call.required : Call → PolicyAction
  | .project call => policyAction .project call.operation
  | .application call => policyAction .application call.operation

def Call.perform (organizationId : Int) : Call → Query Response
  | .project call => call.perform
  | .application call => call.perform platform organizationId

def Call.mapError : Call → SqlxError → ApiError
  | .project _ => mapSqlxError .project
  | .application (.act _ (.getNetworks _)) => mapNetworkError
  | .application (.act _ (.updateNetworks _ _ _)) => mapNetworkError
  | .application _ => mapSqlxError .application

/-- A request of a signed-in user; the header is the number that
`x-organization-id` holds, if it holds one. -/
structure Request where
  header : Option Int
  call : Call

/-- The answer to a request and the store after it. -/
def serve (userId : Int) (store : Store)
    (request : Request) : Except ApiError Response × Store :=
  match requirePermission store.directory userId request.header
    request.call.required with
  | .error error => (.error error, store)
  | .ok organizationId =>
    let action := request.call.perform platform organizationId
    ((action.answer store).mapError request.call.mapError,
      action.worldAfter store)

/-- The answers to a sequence of requests. -/
def responses (platform : Platform) (userId : Int) (store : Store) :
    List Request → List (Except ApiError Response)
  | [] => []
  | request :: requests =>
    let served := serve platform userId store request
    served.1 :: responses platform userId served.2 requests

/-- The store after a sequence of requests. -/
def storeAfter (userId : Int) (store : Store)
    (requests : List Request) : Store :=
  requests.foldl
    (fun store request => (serve platform userId store request).2) store

end OpenOxide.Tenancy
