import OpenOxide.Deployment.Queue

/-!
# The service calls

`run_operation` and the stop and cancel paths of the application, compose
and database services, the deployment service's `cancel`, the force-kill
methods and the clean-up of the queue.  A stop call answers at once and
leaves the Docker work and the final status to a spawned task.
-/

namespace OpenOxide.Deployment

open Concurrency

structure OperationResult where
  resource : Resource
  deploymentId : Option Int
  operation : Operation
deriving DecidableEq

/-- `get_by_id` of the services: every failure becomes a protocol error. -/
def getById (key : ResourceKey) : SqlAction Resource :=
  ExceptT.mk do
    match (← (sql (.read (.resource key))).run :
      Except SqlError (Option Resource)) with
    | .ok (some resource) => pure (.ok resource)
    | .ok none => pure (.error (.protocol SqlError.rowNotFound.text))
    | .error error => pure (.error (.protocol error.text))

/-- `update_status` of the application and compose repositories. -/
def updateStatus (key : ResourceKey) (status : ResourceStatus) :
    SqlAction Resource := do
  sql (.updateStatus key status)
  fetchOne key

/-- `update_status` of the database repositories. -/
def updateDatabaseStatus (kind : DatabaseKind) (id : Int)
    (status : ResourceStatus) : SqlAction Unit :=
  sql (.updateStatus (.database kind id) status)

def getServerIdAndName (kind : DatabaseKind) (id : Int) :
    SqlAction (Option Int × String) := do
  let resource ← fetchOne (.database kind id)
  pure (resource.serverId, resource.name)

/-- A server in maintenance takes nothing. -/
def refuseMaintenance : Option ServerManagement → SqlAction Unit
  | none => throw .rowNotFound
  | some row =>
    refuseIf (row.maintenanceMode != 0)
      (row.maintenanceMessage.getD "server is in maintenance mode")

/-- The server takes deployments. -/
def assertDeployable : Option Int → SqlAction Unit
  | none => pure ()
  | some serverId => do
      sql (.createServerManagement serverId)
      let found : Option ServerManagement ←
        sql (.read (.serverManagement serverId))
      refuseMaintenance found

def ApplicationOperation.title (operation : ApplicationOperation) : String :=
  "Application " ++ operation.operation.asStr

def composeTitle (operation : ServiceOperation) : String :=
  "Compose " ++ operation.operation.asStr

def databaseTitle : ServiceOperation → String
  | .deploy => "Deploying Database"
  | .redeploy => "Redeploying Database"
  | .reload => "Reloading Database"
  | .start => "Starting Database"
  | .stop => "Stopping Database"

/-- The row that `run_operation` of the application service inserts. -/
def applicationDeployment (operation : ApplicationOperation) (id : Int)
    (application : Resource) : NewDeployment :=
  { title := operation.title
    description :=
      operation.operation.asStr ++ " requested for " ++ application.name
    logPath := "pending-app-" ++ toString id
    operation := operation.operation
    key := .application id
    serverId := application.serverId }

variable (config : Config)

/-- Checks, the row, the status, the wake-up. -/
def runApplicationOperation (id : Int)
    (operation : ApplicationOperation) : SqlAction OperationResult := do
  let running : Bool ← sql (.read (.hasActive (.application id)))
  refuseIf running
    "application deployment already queued or running; cancel it first"
  resolve
  ensureCapacity config
  let application ← getById (.application id)
  resolve
  assertDeployable application.serverId
  let deploymentId : Int ←
    sql (.createQueued (applicationDeployment operation id application))
  let _ ← updateStatus (.application id) .starting
  let _ ← sql (.update
    (updateLogPath deploymentId (config.deploymentLogFile deploymentId)))
  resolve
  ExceptT.lift notify
  pure ⟨application, some deploymentId, operation.operation⟩

/-- Statuses under which a stop request counts as a cancellation. -/
def isBuilding : ResourceKey → ResourceStatus → Bool
  | .compose _, status =>
    match status with
    | .queued | .starting | .cancelling => true
    | _ => false
  | .application _, status | .database _ _, status =>
    match status with
    | .queued | .building | .deploying | .starting | .cancelling => true
    | _ => false

/-- The intermediate and the final status of a stop. -/
def stopStatuses (building : Bool) : ResourceStatus × ResourceStatus :=
  if building then (.cancelling, .cancelled) else (.stopping, .stopped)

/-- Cancel by token when the map of tokens can be resolved. -/
def cancelToken (key : IdType) : Action Unit := do
  match ← resolved with
  | .ok () => do
      let _ ← memory (.cancelById key)
      pure ()
  | .error _ => pure ()

/-- Cancel what is queued when the queue can be resolved. -/
def cancelQueue (cancelQueued : SqlAction Bool) : Action Unit := do
  match ← resolved with
  | .ok () => ignore cancelQueued
  | .error _ => pure ()

/-- `stop_or_cancel_smart` of the application service. -/
def stopApplication (id : Int) : Action (Except SqlError Bool) := do
  match ← (getById (.application id)).run with
  | .error error => pure (.error error)
  | .ok application => do
      let statuses :=
        stopStatuses (isBuilding (.application id) application.status)
      ignore (updateStatus (.application id) statuses.1)
      cancelQueue (cancelQueuedApplication id)
      cancelToken (.appId id)
      ignore (sql (.update (requestCancelDeployment id)))
      spawn (.stopJob ⟨.application id, some application, statuses.2⟩)
      pure (.ok true)

/-- `stop_or_cancel_smart` of the compose service. -/
def stopCompose (id : Int) : Action (Except SqlError Bool) := do
  match ← (getById (.compose id)).run with
  | .error error => pure (.error error)
  | .ok compose => do
      let statuses := stopStatuses (isBuilding (.compose id) compose.status)
      ignore (updateStatus (.compose id) statuses.1)
      cancelQueue (cancelQueuedCompose id)
      cancelToken (.composeId id)
      ignore (sql (.update (requestCancelComposeDeployment id)))
      spawn (.stopJob ⟨.compose id, some compose, statuses.2⟩)
      pure (.ok true)

/-- `cancel_operation` of the database service, which carries on without a
record. -/
def stopDatabase (kind : DatabaseKind) (id : Int) :
    Action (Except SqlError Bool) := do
  let key := ResourceKey.database kind id
  let found ← (getById key).run
  let record := found.toOption
  let status := (record.map Resource.status).getD .idle
  let statuses := stopStatuses (isBuilding key status)
  ignore (updateDatabaseStatus kind id statuses.1)
  cancelQueue (cancelQueuedDatabase id)
  cancelToken (.databaseId id)
  ignore (sql (.update (cancelQueuedForDatabase id)))
  ignore (sql (.update (requestCancelDatabaseDeployment id)))
  spawn (.stopJob ⟨key, record, statuses.2⟩)
  pure (.ok true)

/-- The row of a compose project. -/
def composeDeployment (operation : ServiceOperation) (id : Int)
    (compose : Resource) : NewDeployment :=
  { title := composeTitle operation
    description :=
      operation.operation.asStr ++ " requested for " ++ compose.name
    logPath := "pending-compose-" ++ toString id
    operation := operation.operation
    key := .compose id
    serverId := compose.serverId }

/-- A server in maintenance mode still accepts a stop. -/
def assertComposeDeployable (operation : ServiceOperation)
    (compose : Resource) : SqlAction Unit :=
  match operation with
  | .stop => pure ()
  | _ => do
      resolve
      assertDeployable compose.serverId

def composeStatus : ServiceOperation → ResourceStatus
  | .stop => .stopping
  | _ => .starting

/-- The part of `run_operation` of the compose service that queues a row;
the status is written after the dispatcher has been woken. -/
def queueComposeOperation (id : Int)
    (operation : ServiceOperation) : SqlAction OperationResult := do
  resolve
  ensureCapacity config
  let compose ← getById (.compose id)
  assertComposeDeployable operation compose
  let deploymentId : Int ←
    sql (.createQueued (composeDeployment operation id compose))
  let _ ← sql (.update
    (updateLogPath deploymentId (config.deploymentLogFile deploymentId)))
  resolve
  ExceptT.lift notify
  let record ← updateStatus (.compose id) (composeStatus operation)
  pure ⟨record, some deploymentId, operation.operation⟩

/-- Stopping a busy project is a cancellation. -/
def cancelBusyCompose (id : Int) : SqlAction OperationResult := do
  let _ ← ExceptT.mk (stopCompose id)
  let compose ← getById (.compose id)
  pure ⟨compose, none, .stop⟩

/-- A stop cancels; all else is refused. -/
def runBusyCompose (id : Int) : ServiceOperation → SqlAction OperationResult
  | .stop => cancelBusyCompose id
  | _ => throw (.protocol "compose deployment already queued or running")

/-- Queues a deployment unless one is active. -/
def runComposeOperation (id : Int)
    (operation : ServiceOperation) : SqlAction OperationResult := do
  let running : Bool ← sql (.read (.hasActive (.compose id)))
  if running then runBusyCompose id operation
  else queueComposeOperation config id operation

/-- The row of a database. -/
def databaseDeployment (operation : ServiceOperation) (kind : DatabaseKind)
    (id : Int) (serverId : Option Int) (name : String) : NewDeployment :=
  { title := databaseTitle operation
    description :=
      operation.operation.asStr ++ " requested for database " ++ name
    logPath := "pending-db-" ++ toString id
    operation := operation.operation
    key := .database kind id
    serverId }

/-- The status of a database is written before its row is queued. -/
def queueDatabaseOperation (kind : DatabaseKind) (id : Int)
    (operation : ServiceOperation) : SqlAction OperationResult := do
  let running : Bool ← sql (.read (.hasActive (.database id)))
  refuseIf running
    "database deployment already queued or running; cancel it first"
  resolve
  ensureCapacity config
  let (serverId, name) ← getServerIdAndName kind id
  resolve
  assertDeployable serverId
  updateDatabaseStatus kind id .starting
  let deploymentId : Int ←
    sql (.createQueued (databaseDeployment operation kind id serverId name))
  let _ ← sql (.update
    (updateLogPath deploymentId (config.deploymentLogFile deploymentId)))
  resolve
  ExceptT.lift notify
  let database ← getById (.database kind id)
  pure ⟨database, some deploymentId, operation.operation⟩

/-- A stop needs no row. -/
def runDatabaseOperation (kind : DatabaseKind) (id : Int)
    (operation : ServiceOperation) : SqlAction OperationResult := do
  match operation with
  | .stop => do
      let _ ← ExceptT.mk (stopDatabase kind id)
      let database ← getById (.database kind id)
      pure ⟨database, none, .stop⟩
  | _ => queueDatabaseOperation config kind id operation

/-- Where the Docker commands for an application or compose project run. -/
def executorFor (key : ResourceKey) : Action (Except SqlError Host) := do
  match (← (sql (.read (.resource key))).run :
    Except SqlError (Option Resource)) with
  | .error error => pure (.error error)
  | .ok none => pure (.error .rowNotFound)
  | .ok (some resource) =>
    match resource.serverId with
    | none => pure (.ok .localhost)
    | some serverId =>
      match (← outside (.remoteExecutor serverId) :
        Except String Unit) with
      | .ok () => pure (.ok (.remote serverId))
      | .error message => pure (.error (.protocol message))

/-- The Docker commands' own failures are dropped everywhere. -/
def docker (host : Host) (command : DockerCommand) :
    Action (Except String (List ServiceEntry)) :=
  outside (.docker host command)

def dockerIgnore (host : Host) (command : DockerCommand) : Action Unit := do
  let _ ← docker host command
  pure ()

def contains (text part : String) : Bool :=
  decide (part.toList <:+: text.toList)

/-- Containers an application may run in. -/
def applicationCandidates (appName userName : String) : List String :=
  [ appName ++ "_" ++ appName,
    userName ++ "_" ++ userName,
    appName,
    userName,
    appName ++ "_app",
    appName ++ "-app",
    appName ++ "_web",
    appName ++ "_srv",
    userName ++ "_app",
    userName ++ "-app" ]

/-- A service that belongs to the application, as the stop path sees it. -/
def matchesApplication (appName userName service : String) : Bool :=
  contains (config.toLowercase service) (config.toLowercase appName) ||
    contains (config.toLowercase service) (config.toLowercase userName)

/-- The listed services that match are scaled to zero. -/
def scaleDownMatching (host : Host)
    (appName userName : String) : Action Unit := do
  match ← docker host .serviceList with
  | .error _ => pure ()
  | .ok services =>
    Program.forEach
      (fun service : ServiceEntry =>
        if matchesApplication config appName userName service.name then
          dockerIgnore host (.serviceScaleToZero service.name)
        else pure ())
      services

/-- The Docker work of stopping an application. -/
def stopApplicationContainers (host : Host)
    (appName userName : String) : Action Unit := do
  dockerIgnore host (.stackRemove appName)
  if userName != appName then dockerIgnore host (.stackRemove userName)
  else pure ()
  scaleDownMatching config host appName userName
  Program.forEach
    (fun candidate => dockerIgnore host (.containerStop candidate))
    (applicationCandidates appName userName)

/-- Services that are not scaled to zero yet are scaled to zero. -/
def scaleDownServices (host : Host) (filter : String) : Action Unit := do
  match ← docker host (.serviceListNamed filter) with
  | .error _ => pure ()
  | .ok services =>
    Program.forEach
      (fun service : ServiceEntry =>
        if service.replicas != "0/0" then
          dockerIgnore host (.serviceScaleToZero service.name)
        else pure ())
      services

/-- The services or containers of a project. -/
def scaleDownCompose (key : ResourceKey) (appName : String)
    (composeType : ComposeType) : Action Unit := do
  match ← executorFor key with
  | .error _ => pure ()
  | .ok host =>
    match composeType with
    | .dockerCompose => dockerIgnore host (.composeDown appName)
    | .stack => do
        dockerIgnore host (.stackRemove appName)
        scaleDownServices host appName

def databaseCandidates (appName : String) : List String :=
  [appName, appName ++ "_db", appName ++ "-db"]

/-- A database whose server cannot be reached is stopped locally. -/
def databaseHost : Option Int → Action Host
  | none => pure .localhost
  | some serverId => do
      match (← outside (.remoteExecutor serverId) : Except String Unit) with
      | .ok () => pure (.remote serverId)
      | .error _ => pure .localhost

/-- Services and containers, by their names. -/
def stopDatabaseContainers (host : Host) (appName : String) : Action Unit := do
  scaleDownServices host (appName ++ "_")
  Program.forEach
    (fun candidate => do
      dockerIgnore host (.serviceScaleToZero candidate)
      dockerIgnore host (.containerStop candidate))
    (databaseCandidates appName)

/-- The Docker part of the task a stop call spawns. -/
def stopContainers (key : ResourceKey) (record : Resource) : Action Unit := do
  match key with
  | .application _ =>
    match ← executorFor key with
    | .error _ => pure ()
    | .ok host =>
      stopApplicationContainers config host record.appName record.name
  | .compose _ => scaleDownCompose key record.appName record.composeType
  | .database _ _ => do
      let host ← databaseHost record.serverId
      stopDatabaseContainers host record.appName

/-- The final status of a stop, written with the failure dropped. -/
def writeFinalStatus (key : ResourceKey) (status : ResourceStatus) :
    Action Unit :=
  match key with
  | .database kind id => ignore (updateDatabaseStatus kind id status)
  | _ => ignore (updateStatus key status)

/-- The task a stop call spawns. -/
def stopJob (job : StopJob) : Action Unit := do
  match job.record with
  | some record => stopContainers config job.key record
  | none => pure ()
  writeFinalStatus job.key job.finalStatus

def cancelReturns (deploymentId : Int) (result : CancelDeploymentResult) :
    SqlAction CancelDeploymentResult := do
  ExceptT.lift (Program.perform (Op.cancelReturns deploymentId result))
  pure result

/-- `DeploymentService::cancel`. -/
def cancel (deploymentId : Int) : SqlAction CancelDeploymentResult := do
  let info : Option (Target × DeploymentStatus) ←
    sql (.read (.cancelInfo deploymentId))
  match info with
  | none => throw .rowNotFound
  | some (_, .queued) => do
      let _ ← sql (.update (cancelQueuedDeployment deploymentId))
      cancelReturns deploymentId .cancelRequested
  | some (target, .running) =>
    match target.cancelKey with
    | none => cancelReturns deploymentId .notCancellable
    | some key => do
        resolve
        let active : Bool ← ExceptT.lift (memory (.cancelById key))
        if active then do
          let _ ← sql (.update (setCancelRequested deploymentId))
          cancelReturns deploymentId .cancelRequested
        else cancelReturns deploymentId .notActiveInThisProcess
  | some (_, _) => cancelReturns deploymentId .notRunning

/-- The transaction with which a force-kill ends a deployment. -/
def forceKillFinalization (applicationId deploymentId : Int) : Finalization :=
  { id := deploymentId
    deploymentStatus := .cancelled
    errorMessage := some "deployment force-killed"
    target := ⟨some applicationId, none, none, none⟩
    resourceStatus := .error }

/-- An outside request whose failure is reported as an SQL error. -/
def outsideSql (answer : Action (Except String Unit)) : SqlAction Unit :=
  ExceptT.mk do
    match ← answer with
    | .ok () => pure (.ok ())
    | .error message => pure (.error (.protocol message))

/-- Kills what a cancellation does not reach. -/
def forceKillDeployment (id : Int) :
    SqlAction (Int × CancelDeploymentResult) := do
  let _ ← getById (.application id)
  let found : Option RunningDeployment ←
    sql (.read (.running (.application id)))
  match found with
  | none => throw (.protocol "application has no running deployment")
  | some deployment => do
      let result ← cancel deployment.id
      match result, deployment.serverId, deployment.pid with
      | .notActiveInThisProcess, some serverId, some pidFile => do
          outsideSql (outside (.remoteExecutor serverId))
          outsideSql (outside (.killPidFile serverId pidFile))
          sql (.finalizeWithResource
            (forceKillFinalization id deployment.id))
          pure (deployment.id, .cancelRequested)
      | _, _, _ => pure (deployment.id, result)

/-- `force_kill` of the compose service. -/
def forceKillCompose (id : Int) : SqlAction CancelDeploymentResult := do
  let _ ← getById (.compose id)
  let found : Option RunningDeployment ← sql (.read (.running (.compose id)))
  match found with
  | none => throw (.protocol "compose has no running deployment")
  | some deployment => cancel deployment.id

/-- `cleanup_deployment_queue` of the application service and
`cleanup_queue` of the compose service. -/
def cleanupQueue (key : ResourceKey) : SqlAction Nat := do
  let _ ← getById key
  ExceptT.lift (cancelQueue (cancelQueuedBy key.selector))
  sql (.update (cancelQueued key.selector))

def cleanupApplicationQueue (id : Int) : SqlAction Nat :=
  cleanupQueue (.application id)

def cleanupComposeQueue (id : Int) : SqlAction Nat :=
  cleanupQueue (.compose id)

/-- The clean-up of the whole queue. -/
def cleanupAllQueues : SqlAction Nat :=
  sql (.update cleanupDeploymentQueue)

end OpenOxide.Deployment
