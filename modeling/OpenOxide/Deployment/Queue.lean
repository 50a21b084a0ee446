import Mathlib.Data.List.Infix
import OpenOxide.Deployment.Operations

/-!
# The builder queue

The code of `BuilderQueue`: recovery at start-up, the dispatcher, the worker
that runs one claimed deployment, and the handler of a worker's panic.  The
build pipelines themselves are outside the model: `deploy` is any number of
stretches of work, each of which can fail, with a poll of the cancellation
token after each.  Log files, cgroup limits and rollback snapshots leave no
trace in the modelled state.
-/

namespace OpenOxide.Deployment

open Concurrency

abbrev Action := Program Op Op.Answer
abbrev SqlAction := ExceptT SqlError Action
abbrev BuildAction := ExceptT String Action

/-- A statement that may fail. -/
def sql (query : Query) : SqlAction query.Answer :=
  ExceptT.mk (Program.perform (Op.sql query))

def memory (op : MemoryOp) : Action op.Answer :=
  Program.perform (Op.memory op)

/-- A request to the world outside. -/
def outside (request : Outside) : Action request.Answer :=
  Program.perform (Op.outside request)

def spawn (child : Spawn) : Action Unit :=
  Program.perform (Op.spawn child)

/-- Dependency resolution. -/
def resolved : Action (Except String Unit) :=
  outside .resolve

/-- Run a statement and drop its result. -/
def ignore {α : Type} (action : SqlAction α) : Action Unit := do
  let _ ← action.run
  pure ()

/-- Dependency resolution whose failure is reported as an SQL error. -/
def resolve : SqlAction Unit :=
  ExceptT.mk do
    match ← resolved with
    | .ok () => pure (.ok ())
    | .error message => pure (.error (.protocol message))

/-- `fetch_one` on the row of a resource. -/
def fetchOne (key : ResourceKey) : SqlAction Resource := do
  let found : Option Resource ← sql (.read (.resource key))
  match found with
  | some resource => pure resource
  | none => throw .rowNotFound

/-- A refusal with a message. -/
def refuseIf (condition : Bool) (message : String) : SqlAction Unit :=
  if condition then throw (.protocol message) else pure ()

def notify : Action Unit :=
  memory .notify

/-- The queue has a limit. -/
def ensureCapacity (config : Config) : SqlAction Unit := do
  resolve
  let queued : Nat ← sql (.read .queuedCount)
  refuseIf (config.maxSize ≤ queued)
    ("deployment queue is full (" ++ toString queued ++ "/" ++
      toString config.maxSize ++ "); try again later")

/-- The rows of a resource. -/
def ResourceKey.selector : ResourceKey → Selector
  | .application id => .application id
  | .compose id => .compose id
  | .database _ id => .database id

/-- The body shared by `cancel_queued_application`, `cancel_queued_compose`
and `cancel_queued_database`. -/
def cancelQueuedBy (selector : Selector) : SqlAction Bool := do
  resolve
  let _ ← sql (.read (.queuedIds selector))
  let rows : Nat ← sql (.update (cancelQueued selector))
  pure (0 < rows)

def cancelQueuedApplication (id : Int) : SqlAction Bool :=
  cancelQueuedBy (.application id)

def cancelQueuedCompose (id : Int) : SqlAction Bool :=
  cancelQueuedBy (.compose id)

def cancelQueuedDatabase (id : Int) : SqlAction Bool :=
  cancelQueuedBy (.database id)

/-- Kills what the file on the server names. -/
def killRemotePid (deploymentId serverId : Int) (pidFile : String) :
    Action Bool := do
  match (← outside (.remoteExecutor serverId) : Except String Unit) with
  | .error _ => pure false
  | .ok () =>
    match (← outside (.killPidFile serverId pidFile) :
      Except String Unit) with
    | .error _ => pure false
    | .ok () => do
        match ← resolved with
        | .ok () => ignore (sql (.update (setPidNull deploymentId)))
        | .error _ => pure ()
        pure true

/-- Kills the jobs that a restart has left. -/
def cleanupStaleRemoteJobs : Action Unit := do
  match ← resolved with
  | .error _ => pure ()
  | .ok () =>
    match (← (sql (.read .runningRemoteJobs)).run :
      Except SqlError (List (Int × Int × String))) with
    | .error _ => pure ()
    | .ok rows =>
      Program.forEach
        (fun job : Int × Int × String => do
          let _ ← killRemotePid job.1 job.2.1 job.2.2
          pure ())
        rows

def databaseKinds : List DatabaseKind :=
  [.postgres, .mysql, .mariadb, .mongo, .redis, .libsql]

/-- The statements run table by table; the first failure ends the method. -/
def recoverStaleDatabaseStatuses : List DatabaseKind → SqlAction Unit
  | [] => pure ()
  | kind :: others => do
      sql (.recoverStaleStatuses (.databases kind))
      recoverStaleDatabaseStatuses others

/-- What the panel does with old rows at its start. -/
def recoverStaleDeployments : Action Unit := do
  cleanupStaleRemoteJobs
  match ← resolved with
  | .error _ => pure ()
  | .ok () => do
      ignore (sql (.update markInterruptedAsRecovered))
      ignore (sql (.recoverStaleStatuses .applications))
      ignore (sql (.recoverStaleStatuses .composeProjects))
      ignore (recoverStaleDatabaseStatuses databaseKinds)

/-- How many of the jobs are still running after an attempt to kill them. -/
def killAll : List (Int × Int × String) → Action Nat
  | [] => pure 0
  | job :: others => do
      let killed ← killRemotePid job.1 job.2.1 job.2.2
      let pending ← killAll others
      pure (if killed then pending else pending + 1)

/-- The clean-up again, some times. -/
def retryStaleRemoteCleanup : Nat → Action Unit
  | 0 => pure ()
  | attempts + 1 => do
      match ← resolved with
      | .error _ => pure ()
      | .ok () =>
        match (← (sql (.read .recoveredRemoteJobs)).run :
          Except SqlError (List (Int × Int × String))) with
        | .error _ => pure ()
        | .ok [] => pure ()
        | .ok (job :: others) => do
            match ← killAll (job :: others) with
            | 0 => pure ()
            | _ + 1 => retryStaleRemoteCleanup attempts

/-- Recovery, then the dispatcher, once. -/
def start : Action Unit := do
  match (← memory .swapStarted : Bool) with
  | true => pure ()
  | false => do
      recoverStaleDeployments
      spawn .retryStaleRemoteCleanup
      spawn .dispatchLoop
      notify

/-- The slot of a server. -/
def semaphoreFor (server : ServerKey) : Action Nat := do
  match (← memory (.slotGet server) : Option Nat) with
  | some semaphore => pure semaphore
  | none => memory (.slotInsert server)

/-- One turn of the loop of `dispatch_available`. -/
def dispatchOne (entry : Int × ServerKey) : Action Unit := do
  let semaphore ← semaphoreFor entry.2
  match (← memory (.tryAcquire semaphore) : Bool) with
  | false => pure ()
  | true =>
    match (← (sql (.claimQueuedDeployment entry.1)).run :
      Except SqlError (Option DeploymentClaim)) with
    | .ok (some claim) => spawn (.worker claim entry.2 semaphore)
    | .ok none => memory (.dropPermit semaphore)
    | .error _ => memory (.dropPermit semaphore)

/-- One pass over the queue. -/
def dispatchAvailable : Action Unit := do
  match ← resolved with
  | .error _ => pure ()
  | .ok () =>
    match (← (sql (.read .queuedDeploymentsGrouped)).run :
      Except SqlError (List (Int × ServerKey))) with
    | .error _ => pure ()
    | .ok queued => Program.forEach dispatchOne queued

/-- One turn of the dispatcher; the task starts the next turn when it ends. -/
def dispatchLoop : Action Unit := do
  memory .notified
  dispatchAvailable
  spawn .dispatchLoop

def deploymentPidFile (deploymentId : Int) : String :=
  "/tmp/openoxide-deployment-" ++ toString deploymentId ++ ".pid"

/-- An outside request whose failure ends the build with a message. -/
def request (context : String) (answer : Action (Except String Unit)) :
    BuildAction Unit :=
  ExceptT.mk do
    match ← answer with
    | .ok () => pure (.ok ())
    | .error message => pure (.error (context ++ message))

/-- A statement whose failure ends the build with a message. -/
def statement {α : Type} (context : String) (action : SqlAction α) :
    BuildAction α :=
  ExceptT.mk do
    match ← action.run with
    | .ok value => pure (.ok value)
    | .error error => pure (.error (context ++ error.text))

/-- Work with a poll of the token after each stretch. -/
def buildRounds (token : Nat) : Nat → BuildAction Unit
  | 0 => pure ()
  | rounds + 1 => do
      request "" (outside .build)
      let cancelled : Bool ← ExceptT.lift (memory (.isCancelled token))
      if cancelled then throw "command stream consumer disconnected"
      else buildRounds token rounds

/-- The `deploy` method of the three builders; the last stretch of work is
followed by no poll. -/
def deploy (token : Nat) : BuildAction Unit := do
  let rounds : Nat ← ExceptT.lift (outside .rounds)
  buildRounds token rounds
  request "" (outside .build)

/-- A fresh entry in the token map, and the token the build polls. -/
def resetToken (key : IdType) : Action Nat := do
  memory (.resetDefault key)
  match (← memory (.cancellationToken key) : Option Nat) with
  | some token => pure token
  | none => memory .newToken

/-- Record the pid file of a remote build and connect to its server. -/
def connect (pidError : String) (deploymentId serverId : Int) :
    BuildAction Unit := do
  let _ ← statement pidError
    (sql (.update (setPid deploymentId (deploymentPidFile deploymentId))))
  request "" (outside (.remoteExecutor serverId))

/-- The connection to a remote server. -/
def prepareExecutor (pidError : String) (deploymentId : Int) :
    Option Int → BuildAction Unit
  | none => pure ()
  | some serverId => do
      request "could not resolve DeploymentRepository: " resolved
      connect pidError deploymentId serverId

/-- The resource's row, which carries its server. -/
def deploymentContext (context : String) (key : ResourceKey) :
    BuildAction Resource :=
  statement context (fetchOne key)

/-- The build of an application. -/
def executeOperationApp (applicationId deploymentId : Int) :
    BuildAction Unit := do
  let key := ResourceKey.application applicationId
  request "could not resolve ApplicationSpecAdapter: " resolved
  request "could not load deployment config: " (outside (.loadSpec key))
  request "could not resolve ApplicationRepository: " resolved
  let resource ← deploymentContext "could not resolve deployment context: " key
  request "could not resolve application state: " resolved
  let token ← ExceptT.lift (resetToken key.idType)
  request "could not resolve application config: " resolved
  prepareExecutor "could not persist remote deployment pid file: "
    deploymentId resource.serverId
  ExceptT.lift (spawn (.recordBuilderEvents deploymentId))
  deploy token

/-- Stopping a compose project ignores the token and every failure. -/
def executeOperationCompose (composeId deploymentId : Int)
    (operation : Operation) : BuildAction Unit := do
  let key := ResourceKey.compose composeId
  request "could not resolve ComposeSpecAdapter: " resolved
  request "could not load compose config: " (outside (.loadSpec key))
  request "could not resolve ComposeProjectRepository: " resolved
  let resource ← deploymentContext "could not resolve compose context: " key
  request "could not resolve application state: " resolved
  let token ← ExceptT.lift (resetToken key.idType)
  prepareExecutor "could not persist remote compose pid file: "
    deploymentId resource.serverId
  ExceptT.lift (spawn (.recordBuilderEvents deploymentId))
  match operation with
  | .stop => ExceptT.lift do
      let _ ← outside .build
      pure ()
  | _ => deploy token

/-- Stopping a database reads its name once more. -/
def operateDb (key : ResourceKey) (token : Nat) :
    Operation → BuildAction Unit
  | .stop => do
      let _ ← deploymentContext "Failed to query database app_name: " key
      deploy token
  | _ => deploy token

/-- The build of a database. -/
def executeOperationDb (databaseId : Int) (kind : DatabaseKind)
    (deploymentId : Int) (operation : Operation) : BuildAction Unit := do
  let key := ResourceKey.database kind databaseId
  request "could not resolve DeploymentRepository: " resolved
  let resource ← deploymentContext "Database context not found: " key
  request "could not resolve application state: " resolved
  let token ← ExceptT.lift (resetToken key.idType)
  request "could not resolve application config: " resolved
  match resource.serverId with
  | none => pure ()
  | some serverId =>
    connect "could not persist remote deployment pid file: "
      deploymentId serverId
  ExceptT.lift (spawn (.recordBuilderEvents deploymentId))
  operateDb key token operation

variable (claim : DeploymentClaim)

/-- The build of a claimed deployment, chosen by its target columns. -/
def executeOperation : BuildAction Unit :=
  let operation := claim.operation.getD .deploy
  match claim.target with
  | ⟨some applicationId, none, none, none⟩ =>
    executeOperationApp applicationId claim.id
  | ⟨none, some composeId, none, none⟩ =>
    executeOperationCompose composeId claim.id operation
  | ⟨none, none, some databaseId, kind⟩ =>
    executeOperationDb databaseId (kind.getD .postgres) claim.id operation
  | _ =>
    throw ("deployment " ++ toString claim.id ++
      " must have exactly one of application_id, compose_id, or" ++
      " database_id/kind")

/-- A text that reads like a cancellation. -/
def isCancelledError (error : String) : Bool :=
  decide ("cancel".toList <:+: error.toList.map Char.toLower)

/-- The status a worker gives to its deployment. -/
def finalStatus : Option String → DeploymentStatus
  | none => .done
  | some error => if isCancelledError error then .cancelled else .error

/-- The status a worker gives to its resource. -/
def targetStatus (status : DeploymentStatus) (operation : Operation) :
    ResourceStatus :=
  match status with
  | .done =>
    match operation with
    | .stop => .stopped
    | _ => .running
  | _ => .error

/-- The transaction with which a worker ends its deployment. -/
def DeploymentClaim.finalization (error : Option String) : Finalization :=
  { id := claim.id
    deploymentStatus := finalStatus error
    errorMessage := error
    target := claim.target
    resourceStatus :=
      targetStatus (finalStatus error) (claim.operation.getD .deploy) }

/-- The tokens of the resource are forgotten when its deployment ends; a
database token only when the row has a kind. -/
def Target.stateKeys (target : Target) : List IdType :=
  (target.applicationId.map IdType.appId).toList ++
    (target.composeId.map IdType.composeId).toList ++
    match target.databaseId, target.databaseKind with
    | some id, some _ => [.databaseId id]
    | _, _ => []

/-- Cancelled deployments notify nobody. -/
def notifyDeploymentFinished (status : DeploymentStatus) : Action Unit := do
  match status with
  | .cancelled => pure ()
  | _ =>
    match ← resolved with
    | .error _ => pure ()
    | .ok () => outside .sendNotification

/-- The build, and the end of its row. -/
def process : Action Unit := do
  let result ← (executeOperation claim).run
  let error : Option String :=
    match result with
    | .ok () => none
    | .error message => some ("Execution failed: " ++ message)
  Program.perform (Op.executed claim.id error)
  match ← resolved with
  | .error _ => pure ()
  | .ok () => do
      ignore (sql (.finalizeWithResource (claim.finalization error)))
      Program.forEach (fun key => memory (.removeState key))
        claim.target.stateKeys
      notifyDeploymentFinished (finalStatus error)

/-- Free the slot, then wake the dispatcher. -/
def release (semaphore : Nat) : Action Unit := do
  memory (.dropPermit semaphore)
  notify

/-- A build that holds a permit. -/
def worker (semaphore : Nat) : Action Unit := do
  process claim
  release semaphore

/-- The transaction with which the panic handler ends a deployment. -/
def DeploymentClaim.panicFinalization : Finalization :=
  { id := claim.id
    deploymentStatus := .error
    errorMessage := some "builder worker panicked"
    target := claim.target
    resourceStatus := .error }

/-- What is left of a worker after `catch_unwind` has caught a panic. -/
def workerPanicked (semaphore : Nat) : Action Unit := do
  match ← resolved with
  | .ok () => ignore (sql (.finalizeWithResource claim.panicFinalization))
  | .error _ => pure ()
  release semaphore

/-- The events of one build, in the order the channel delivers them. -/
def recordEvents (deploymentId : Int) : Nat → Action Unit
  | 0 => pure ()
  | events + 1 => do
      match (← outside .event : BuilderEvent) with
      | .message _ => pure ()
      | .failed error =>
        ignore (sql (.update
          (updateStateIfRunning deploymentId .failed (some error))))
      | event =>
        ignore (sql (.update
          (updateStateIfRunning deploymentId (builderEventState event)
            none)))
      recordEvents deploymentId events

/-- The loop over the channel, when the repository can be resolved. -/
def receiveEvents (deploymentId : Int) : Action Unit := do
  match ← resolved with
  | .error _ => pure ()
  | .ok () => do
      let events : Nat ← outside .rounds
      recordEvents deploymentId events

/-- The state of the row follows the build. -/
def recordBuilderEvents (config : Config) (deploymentId : Int) :
    Action Unit := do
  match ← resolved with
  | .ok () =>
    ignore (sql (.update (updateLogPath deploymentId
      (config.deploymentLogFile deploymentId))))
  | .error _ => pure ()
  receiveEvents deploymentId

end OpenOxide.Deployment
