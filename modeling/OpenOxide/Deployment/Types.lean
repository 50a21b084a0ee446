import Mathlib.Data.List.Basic

/-!
# Deployment rows and the resources they belong to

The data of the deployment queue: the rows of the `deployments` table, the
three families of resources a row can target, and the constraints that the
migrations put on the stored status values.  Columns that no modelled
statement reads (`started_at`, `finished_at`, `last_state_at`, `logs`, the
preview flag) are left out.
-/

namespace OpenOxide.Deployment

/-- The values of `deployments.status`. -/
inductive DeploymentStatus where
  | queued
  | running
  | building
  | cancelling
  | done
  | error
  | cancelled
deriving DecidableEq

/-- The values of `deployments.state`. -/
inductive DeploymentState where
  | queue
  | queued
  | running
  | building
  | cancelling
  | done
  | error
  | cancelled
  | preparing
  | sourceReady
  | imageReady
  | deploying
  | routing
  | healthCheck
  | deployed
  | message
  | failed
  | recoverAfterRestart
  | cancelRequested
  | recoveredAfterRestart
deriving DecidableEq

namespace DeploymentStatus

/-- Statuses covered by the partial unique indexes and by the busy checks. -/
def active : DeploymentStatus → Bool
  | .queued | .running => true
  | _ => false

def terminal : DeploymentStatus → Bool
  | .done | .error | .cancelled => true
  | _ => false

/-- A final status is also written to the `state` column. -/
def asState : DeploymentStatus → DeploymentState
  | .queued => .queued
  | .running => .running
  | .building => .building
  | .cancelling => .cancelling
  | .done => .done
  | .error => .error
  | .cancelled => .cancelled

end DeploymentStatus

/-- The stored status of an application, compose project or database. -/
inductive ResourceStatus where
  | idle
  | queued
  | building
  | deploying
  | rebuilding
  | redeploying
  | starting
  | running
  | healthy
  | ok
  | success
  | stopping
  | stopped
  | cancelling
  | cancelled
  | done
  | failed
  | error
deriving DecidableEq

namespace ResourceStatus

/-- Statuses that announce work in progress. -/
def transitional : ResourceStatus → Bool
  | .queued | .starting | .stopping | .cancelling => true
  | _ => false

end ResourceStatus

/-- The database services. -/
inductive DatabaseKind where
  | postgres
  | mysql
  | mariadb
  | mongo
  | redis
  | libsql
deriving DecidableEq

namespace DatabaseKind

def asStr : DatabaseKind → String
  | .postgres => "postgres"
  | .mysql => "mysql"
  | .mariadb => "mariadb"
  | .mongo => "mongo"
  | .redis => "redis"
  | .libsql => "libsql"

end DatabaseKind

/-- The operations of all three services; applications have no `stop` and
only applications have `rebuild`. -/
inductive Operation where
  | deploy
  | redeploy
  | rebuild
  | reload
  | start
  | stop
deriving DecidableEq

def Operation.asStr : Operation → String
  | .deploy => "deploy"
  | .redeploy => "redeploy"
  | .rebuild => "rebuild"
  | .reload => "reload"
  | .start => "start"
  | .stop => "stop"

/-- What may be asked of an application. -/
inductive ApplicationOperation where
  | deploy
  | redeploy
  | rebuild
  | reload
  | start

def ApplicationOperation.operation : ApplicationOperation → Operation
  | .deploy => .deploy
  | .redeploy => .redeploy
  | .rebuild => .rebuild
  | .reload => .reload
  | .start => .start

/-- The operations of compose projects, and likewise of databases. -/
inductive ServiceOperation where
  | deploy
  | redeploy
  | reload
  | start
  | stop
deriving DecidableEq

def ServiceOperation.operation : ServiceOperation → Operation
  | .deploy => .deploy
  | .redeploy => .redeploy
  | .reload => .reload
  | .start => .start
  | .stop => .stop

/-- What a deployment is for.  Databases live in one table per kind, so an
identifier alone does not name one. -/
inductive ResourceKey where
  | application (id : Int)
  | compose (id : Int)
  | database (kind : DatabaseKind) (id : Int)
deriving DecidableEq

def ResourceKey.isDatabase : ResourceKey → Bool
  | .database _ _ => true
  | _ => false

/-- The keys of the in-memory map of cancellation tokens. -/
inductive IdType where
  | appId (id : Int)
  | composeId (id : Int)
  | databaseId (id : Int)
deriving DecidableEq

def ResourceKey.idType : ResourceKey → IdType
  | .application id => .appId id
  | .compose id => .composeId id
  | .database _ id => .databaseId id

/-- The four target columns of a deployment row. -/
structure Target where
  applicationId : Option Int
  composeId : Option Int
  databaseId : Option Int
  databaseKind : Option DatabaseKind
deriving DecidableEq

/-- The target columns that `create_queued_*` writes. -/
def ResourceKey.target : ResourceKey → Target
  | .application id => ⟨some id, none, none, none⟩
  | .compose id => ⟨none, some id, none, none⟩
  | .database kind id => ⟨none, none, some id, some kind⟩

namespace Target

/-- The row works on this resource; a database row without a kind is
treated as a postgres one. -/
def names (target : Target) : ResourceKey → Bool
  | .application id => target.applicationId == some id
  | .compose id => target.composeId == some id
  | .database kind id =>
    target.databaseId == some id &&
      target.databaseKind.getD .postgres == kind

/-- The resource whose status the finalising transaction writes. -/
def statusKey (target : Target) : Option ResourceKey :=
  match target.applicationId, target.composeId, target.databaseId,
      target.databaseKind with
  | some id, _, _, _ => some (.application id)
  | none, some id, _, _ => some (.compose id)
  | none, none, some id, some kind => some (.database kind id)
  | none, none, _, _ => none

/-- The token a cancellation of the row addresses. -/
def cancelKey (target : Target) : Option IdType :=
  (target.applicationId.map IdType.appId).or
    ((target.composeId.map IdType.composeId).or
      (target.databaseId.map IdType.databaseId))

@[simp] theorem names_target (key other : ResourceKey) :
    key.target.names other = (key == other) := by
  cases key <;> cases other <;> grind [ResourceKey.target, names]

@[simp] theorem statusKey_target (key : ResourceKey) :
    key.target.statusKey = some key := by
  cases key <;> rfl

end Target

structure DeploymentRow where
  id : Int
  title : String
  description : Option String
  status : DeploymentStatus
  state : DeploymentState
  logPath : String
  pid : Option String
  errorMessage : Option String
  operation : Option Operation
  target : Target
  serverId : Option Int
  createdAt : Int

/-- What the claiming statement returns. -/
structure DeploymentClaim where
  id : Int
  target : Target
  operation : Option Operation
deriving DecidableEq

def DeploymentRow.claim (row : DeploymentRow) : DeploymentClaim :=
  ⟨row.id, row.target, row.operation⟩

structure RunningDeployment where
  id : Int
  serverId : Option Int
  pid : Option String

/-- `compose_projects.compose_type`. -/
inductive ComposeType where
  | dockerCompose
  | stack
deriving DecidableEq

/-- A row of `applications`, `compose_projects` or one of the database
tables.  Only compose projects read `composeType`. -/
structure Resource where
  key : ResourceKey
  name : String
  appName : String
  status : ResourceStatus
  serverId : Option Int
  composeType : ComposeType := .stack
deriving DecidableEq

structure ServerManagement where
  serverId : Int
  maintenanceMode : Int
  maintenanceMessage : Option String

structure Database where
  deployments : List DeploymentRow
  nextId : Int
  resources : List Resource
  serverManagement : List ServerManagement
  now : Int

/-- The constraints of the schema that a statement can violate. -/
inductive Constraint where
  | deploymentStatusCheck
  | resourceStatusCheck (key : ResourceKey)
  | oneActiveApplication
  | oneActiveCompose
deriving DecidableEq

/-- How a statement fails. -/
inductive SqlError where
  | rowNotFound
  | protocol (message : String)
  | constraint (violated : Constraint)
deriving DecidableEq

/-- The names the migrations give to the constraints. -/
def Constraint.name : Constraint → String
  | .deploymentStatusCheck => "CHECK constraint failed: deployment_status_check"
  | .resourceStatusCheck (.application _) =>
    "CHECK constraint failed: app_status_check"
  | .resourceStatusCheck (.compose _) =>
    "CHECK constraint failed: compose_status_check"
  | .resourceStatusCheck (.database .postgres _) =>
    "CHECK constraint failed: pg_status_check"
  | .resourceStatusCheck (.database kind _) =>
    "CHECK constraint failed: " ++ kind.asStr ++ "_status_check"
  | .oneActiveApplication =>
    "UNIQUE constraint failed: deployments.application_id"
  | .oneActiveCompose => "UNIQUE constraint failed: deployments.compose_id"

/-- The extended result codes of SQLite. -/
def Constraint.code : Constraint → String
  | .deploymentStatusCheck | .resourceStatusCheck _ => "275"
  | .oneActiveApplication | .oneActiveCompose => "2067"

/-- The text of an error. -/
def SqlError.text : SqlError → String
  | .rowNotFound =>
    "no rows returned by a query that expected to return at least one row"
  | .protocol message =>
    "encountered unexpected or invalid data: " ++ message
  | .constraint violated =>
    "error returned from database: (code: " ++ violated.code ++ ") " ++
      violated.name

/-- The `CHECK` constraints on the status columns. -/
structure Schema where
  deploymentStatus : DeploymentStatus → Bool
  resourceStatus : ResourceKey → ResourceStatus → Bool

namespace Schema

/-- The constraints as the migrations create them. -/
def migrations : Schema where
  deploymentStatus
    | .queued | .running | .done | .error | .cancelled => true
    | .building | .cancelling => false
  resourceStatus
    | .application _, status | .compose _, status =>
      match status with
      | .idle | .running | .done | .error => true
      | _ => false
    | .database _ _, _ => true

/-- Every status value the code writes is accepted. -/
def permissive : Schema where
  deploymentStatus _ := true
  resourceStatus _ _ := true

end Schema

end OpenOxide.Deployment
