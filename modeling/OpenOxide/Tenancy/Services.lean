import OpenOxide.Deployment.Types
import OpenOxide.Tenancy.Bodies

/-!
# The project and application services

What a service learns from outside its tables (the deployment engine, the rows
that hang from an application, random numbers, an uploaded archive) is an
argument.

The state cache is a facade that never holds anything, so that a service reads
its row anew each time.  A missing row passes through it as a protocol error.
-/

namespace OpenOxide.Tenancy

open Access (DbError)
open Deployment (ApplicationOperation)
open Effects (Attempt)

/-- SQLite's own words. -/
def dbMessage : DbError → String
  | .uniqueViolation column => "UNIQUE constraint failed: " ++ column
  | .checkViolation constraint => "CHECK constraint failed: " ++ constraint
  | .foreignKeyViolation => "FOREIGN KEY constraint failed"
  | .rowNotFound => "row not found"
  | .unavailable => "database unavailable"

/-- The extended result code of a violation, as the error shows it. -/
def dbCode : DbError → String
  | .uniqueViolation _ => "(code: 2067) "
  | .checkViolation _ => "(code: 275) "
  | .foreignKeyViolation => "(code: 787) "
  | .rowNotFound | .unavailable => ""

def noRows : String :=
  "no rows returned by a query that expected to return at least one row"

/-- The error as `sqlx` displays it. -/
def SqlxError.display : SqlxError → String
  | .rowNotFound => noRows
  | .protocol message => "encountered unexpected or invalid data: " ++ message
  | .database error =>
    "error returned from database: " ++ dbCode error ++ dbMessage error
  | .plain _ message => message

namespace ProjectService

/-- The project and its default environment. -/
def create (input : CreateProject) : Query Project :=
  insertProject input.name input.description input.envVar input.organizationId

/-- What is not given stays. -/
def update (id : Int) (input : PatchProject) : Query Project := do
  let current ← getProject id
  updateProject id (input.name.getD current.name)
    (input.description.or current.description)
    (input.envVar.getD current.envVar)

/-- A project that is missing is an error. -/
def delete (id : Int) : Query Unit := do
  let _ ← getProject id
  deleteProject id

end ProjectService

namespace ApplicationService

/-- Another organization's row counts as missing. -/
def ensureOrganizationAccess (id organizationId : Int) : Query Unit := do
  if ← belongsToOrganization id organizationId then pure ()
  else throw .rowNotFound

/-- `get_by_id`, where the cache has turned the missing row into a text. -/
def getById (id : Int) : Query Application := do
  match ← findApplication id with
  | some application => pure application
  | none => throw (.protocol noRows)

/-- `get_by_id` of the repository with `ok_or(RowNotFound)`. -/
def expectRow (id : Int) : Query Application := do
  match ← findApplication id with
  | some application => pure application
  | none => throw .rowNotFound

variable (platform : Platform)

def generateAppName (name suffix : String) : String :=
  platform.slug name ++ "-" ++ suffix

/-- The row with what the body gives. -/
def create (input : CreateApplication) (suffix : String) :
    Query Application := do
  let id ← insertApplication platform
    (generateAppName platform input.name suffix) input.environmentId
    [("name", .text input.name),
      ("description", optionalText input.description),
      ("source_type", .text input.sourceType),
      ("build_type", .text input.buildType),
      ("server_id", optionalInteger input.serverId)]
  expectRow id

/-- Only what is given is assigned. -/
def patch (id : Int) (input : PatchApplication) : Query Application := do
  let _ ← getById id
  let _ ← updateApplication platform id
    fun columns => columns.assign input.assignments
  expectRow id

/-- The bodies shared by the source and configuration services: one statement,
and the row as it is then. -/
def assignAndReload (id : Int) (assignments : Columns) : Query Application := do
  let _ ← updateApplication platform id fun columns => columns.assign assignments
  getById id

def setSource (id : Int) (input : PatchSource) : Query Application :=
  assignAndReload platform id input.assignments

def patchBuildConfig (id : Int)
    (input : PatchBuildConfig) : Query Application :=
  assignAndReload platform id input.assignments

def patchResourceConfig (id : Int)
    (input : PatchResourceConfig) : Query Application :=
  assignAndReload platform id input.assignments

def isEmptyText (text : Option String) : Bool :=
  text.all fun text => text.isEmpty

/-- Active previews need a wildcard. -/
def patchPreviewConfig (id : Int)
    (input : PatchPreviewConfig) : Query Unit := do
  let _ ← getById id
  if input.active && isEmptyText input.previewWildcard then
    throw (.protocol
      "preview_wildcard is required when preview deployments are active")
  if input.previewCertificateType == .custom &&
      isEmptyText input.previewCustomCertResolver then
    throw (.protocol
      "preview_custom_cert_resolver is required for CUSTOM certificates")
  let _ ← updateApplication platform id
    fun columns => columns.assign input.assignments
  pure ()

/-- What unpacking an uploaded archive for an application yields: the build
path, or the reason why it failed. -/
abbrev Upload := Application → Except String String

/-- The source becomes the uploaded archive. -/
def uploadDropSource (id : Int) (received : Upload) : Query Application := do
  match ← findApplication id with
  | none => throw (.plain 400 "application not found")
  | some application =>
    let buildPath ← Attempt.ofExcept
      ((received application).mapError (.plain 400))
    match ← (updateApplication platform id fun columns =>
        columns.assign (PatchSource.drop (some buildPath)).assignments).outcome
    with
    | .error error => throw (.plain 400
        ("failed to update application source: " ++ error.display))
    | .ok _ =>
      match ← (getById id).outcome with
      | .error error => throw (.plain 400
          ("failed to reload application: " ++ error.display))
      | .ok application => pure application

/-- `ApplicationRepository::update_status`. -/
def updateStatus (id : Int) (status : String) : Query Application := do
  let _ ← updateApplication platform id
    fun columns => columns.set "app_status" (.text status)
  expectRow id

/-- The answers of the deployment engine to one operation: whether a deployment
is active, whether the queue has room and the server may be used, and the row
that is queued. -/
structure Engine where
  running : Bool
  capacity : Except SqlxError Unit
  deployable : Value → Except SqlxError Unit
  queued : Except SqlxError Int

/-- The checks come before the row is queued. -/
def runOperation (id : Int)
    (operation : ApplicationOperation) (engine : Engine) :
    Query (Application × Int × ApplicationOperation) := do
  if engine.running then
    throw (.protocol
      "application deployment already queued or running; cancel it first")
  Attempt.ofExcept engine.capacity
  let application ← getById id
  Attempt.ofExcept (engine.deployable (application.columns.get "server_id"))
  let deploymentId ← Attempt.ofExcept engine.queued
  let _ ← updateStatus platform id "STARTING"
  pure (application, deploymentId, operation)

/-- `ApplicationStatus::is_building`. -/
def isBuilding (status : Value) : Bool :=
  [Value.text "QUEUED", .text "BUILDING", .text "DEPLOYING", .text "STARTING",
    .text "CANCELLING"].contains status

/-- `stop_or_cancel_smart`, together with the task it spawns.  Neither status
write is waited for. -/
def stopOrCancelSmart (id : Int) : Query Unit := do
  let application ← getById id
  let building := isBuilding (application.columns.get "app_status")
  let _ ← (updateStatus platform id
    (if building then "CANCELLING" else "STOPPING")).outcome
  let _ ← (updateStatus platform id
    (if building then "CANCELLED" else "STOPPED")).outcome
  pure ()

/-- A new token for the webhook. -/
def rotateWebhookToken (id : Int)
    (token : Except String String) : Query String := do
  let _ ← getById id
  let token ← Attempt.ofExcept (token.mapError .protocol)
  if ← updateApplication platform id
      fun columns => columns.set "refresh_token" (.text token) then
    pure token
  else throw .rowNotFound

/-- Only within the organization. -/
def moveToEnvironment (id target : Int) (running : Bool) :
    Query Application := do
  let _ ← getById id
  if running then
    throw (.protocol "application deployment is already queued or running")
  match ← moveToEnvironmentInSameOrganization id target with
  | some application => pure application
  | none => throw (.protocol
      "target environment not found or belongs to another organization")

/-- The services that read the application and then consult the rows of other
tables that name it. -/
def consult {Answer : Type} (id : Int)
    (answer : Application → Except SqlxError Answer) : Query Answer := do
  let application ← getById id
  Attempt.ofExcept (answer application)

def clearDeploymentHistory (id affected : Int) : Query Int :=
  consult id fun _ => .ok affected

def cleanupDeploymentQueue (id affected : Int) : Query Int :=
  consult id fun _ => .ok affected

def listRollbacks (id : Int) (rows : List Columns) : Query (List Columns) :=
  consult id fun _ => .ok rows

def triggerRollback (id : Int)
    (rolled : Application → Except SqlxError (Int × String)) :
    Query (Int × String) :=
  consult id rolled

def deleteRollback (id : Int) (found : Bool) : Query Bool :=
  consult id fun _ => .ok found

def dependencies (id : Int) (counts : Columns) : Query Columns :=
  consult id fun _ => .ok counts

/-- What `force_kill_deployment` finds: the running deployment, what cancelling
it answers, and whether the process had to be killed through its file. -/
structure Kill where
  running : Option Int
  cancelled : Except SqlxError String
  killed : Except SqlxError Bool

/-- Kills what a cancellation does not reach. -/
def forceKillDeployment (id : Int) (kill : Kill) : Query (Int × String) := do
  let _ ← getById id
  match kill.running with
  | none => throw (.protocol "application has no running deployment")
  | some deploymentId =>
    let status ← Attempt.ofExcept kill.cancelled
    if ← Attempt.ofExcept kill.killed then
      let _ ← updateApplication platform id
        fun columns => columns.set "app_status" (.text "ERROR")
      pure (deploymentId, "CANCEL_REQUESTED")
    else pure (deploymentId, status)

/-- `PreviewDeploymentService::remove_unlocked` with a hard delete. -/
def removePreview (id : Int) : Query Unit := do
  match ← findPreview id with
  | none => throw (.protocol "Preview deployment not found")
  | some preview =>
    match preview.previewApplicationId with
    | none => deletePreview id
    | some applicationId =>
      match ← findApplication applicationId with
      | none => deletePreview id
      | some _ =>
        let _ ← (stopOrCancelSmart platform applicationId).outcome
        deleteApplicationRow applicationId
        deletePreview id

/-- `PreviewDeploymentService::remove_for_base_application`. -/
def removeForBaseApplication (id : Int) : Query Unit := do
  let previews ← listOpenForBaseApplication id
  previews.foldlM (fun _ preview => removePreview platform preview.id) ()

/-- `ApplicationService::delete`. -/
def delete (id activeDeployments enabledBackups : Int) : Query Unit := do
  let _ ← getById id
  if activeDeployments > 0 || enabledBackups > 0 then
    throw (.protocol ("application has active dependencies: " ++
      "active_deployments=" ++ toString activeDeployments ++
      ", enabled_backups=" ++ toString enabledBackups))
  if (← findByPreviewApplication id).isSome then
    throw (.protocol ("Preview applications must be deleted through the " ++
      "preview deployment API"))
  removeForBaseApplication platform id
  deleteApplicationRow id

end ApplicationService

namespace ApplicationTransferService

def exportSchemaVersion : Int := 1

/-- What an export leaves out unless asked. -/
def secretColumns : List String :=
  ["env_var", "build_secrets", "preview_env", "preview_build_secrets",
    "docker_password"]

/-- The row without its secrets. -/
def exportApplication (id : Int) (includeSecrets : Bool) : Query Application := do
  let application ← ApplicationService.expectRow id
  let hidden := "refresh_token" :: if includeSecrets then [] else secretColumns
  pure { application with
    columns := application.columns.assign
      (hidden.map fun column => (column, .null)) }

/-- The columns that an import does not take over. -/
def unlinkedColumns : List String :=
  ["build_server_id", "registry_id", "rollback_registry_id",
    "build_registry_id", "github_provider_id", "gitlab_provider_id",
    "gitea_provider_id", "bitbucket_provider_id", "custom_git_ssh_key_id",
    "refresh_token"]

/-- The name of the copy. -/
def importedName (input : ImportApplication) (bundle : ExportBundle) : String :=
  match input.name, bundle.columns.get "name" with
  | some name, _ => name
  | none, .text name => name
  | none, _ => ""

/-- `ApplicationTransferService::import`; the rows that hang from the
application are inserted outside, and when that fails the row is deleted. -/
def importApplication (platform : Platform) (input : ImportApplication)
    (suffix : String) (relations : Except SqlxError Unit) :
    Query Application := do
  let bundle ← Attempt.ofExcept (input.bundle.mapError fun error =>
    .protocol ("invalid application archive: " ++ error))
  if bundle.schemaVersion != exportSchemaVersion then
    throw (.protocol ("unsupported application export schema version " ++
      toString bundle.schemaVersion))
  if (← findEnvironment input.targetEnvironmentId).isNone then
    throw (.protocol "target environment not found")
  let name := importedName input bundle
  let id ← insertApplication platform
    (ApplicationService.generateAppName platform name suffix)
    input.targetEnvironmentId
    (bundle.columns.assign
      ([("name", .text name), ("app_status", .text "IDLE"),
        ("server_id", optionalInteger input.targetServerId)] ++
        unlinkedColumns.map fun column => (column, .null)))
  match relations with
  | .ok _ => ApplicationService.expectRow id
  | .error error => do
      deleteApplicationRow id
      throw error

end ApplicationTransferService

namespace ApplicationNetworkService

/-- The networks that the row names, or the reason why they cannot be read. -/
def get (id : Int)
    (resolved : Application → Except SqlxError (Bool × List Columns)) :
    Query (Bool × List Columns) := do
  let application ← ApplicationService.expectRow id
  Attempt.ofExcept (resolved application)

def update (platform : Platform) (id : Int) (networkIds : String)
    (detach : Bool) (resolved : Application → Except SqlxError (List Columns)) :
    Query (Bool × List Columns) := do
  let application ← ApplicationService.expectRow id
  let rows ← Attempt.ofExcept (resolved application)
  if detach && rows.isEmpty then
    throw (.protocol ("at least one network is required when the OpenOxide " ++
      "network is detached"))
  let _ ← updateApplication platform id fun columns =>
    columns.assign [("network_ids", .text networkIds),
      ("detach_rustploy_network", flag detach)]
  pure (detach, rows)

end ApplicationNetworkService

end OpenOxide.Tenancy
