import Mathlib.Data.List.Sort
import OpenOxide.Relational.Table
import OpenOxide.Deployment.Types

/-!
# The statements of the deployment repository

Every statement that touches `deployments` or a resource status is a value
of `Query`, and `Database.execute` is what SQLite does with it: the answer
and the new database, or an error that leaves the database as it was.  The
updates are one record with the parts of `UPDATE … SET … WHERE …` that the
source uses, and each statement of the source is a named instance of it.

No `UPDATE` of the source gives a row a status covered by the partial
unique indexes unless the row had one already, so only insertions have to
consult the indexes.

`Executed` is the description of a statement that the rest of the development
uses: a successful statement maps
`Query.rewrite` over the rows and appends `Query.inserted`, and it gives every
resource the status `Query.status`.
-/

namespace OpenOxide.Deployment

open Relational

/-- The target part of a `WHERE` clause. -/
inductive Selector where
  | deployment (id : Int)
  | application (id : Int)
  | compose (id : Int)
  | database (id : Int)
  | all
deriving DecidableEq

/-- The `WHERE` clause. -/
def Selector.selects : Selector → DeploymentRow → Bool
  | .deployment id, row => row.id == id
  | .application id, row => row.target.applicationId == some id
  | .compose id, row => row.target.composeId == some id
  | .database id, row => row.target.databaseId == some id
  | .all, _ => true

/-- What a statement does to `error_message`. -/
inductive ErrorColumn where
  | keep
  | coalesce (message : Option String)
  | fallback (message : String)
deriving DecidableEq

def ErrorColumn.apply : ErrorColumn → Option String → Option String
  | .keep, old => old
  | .coalesce message, old => message.or old
  | .fallback message, old => old.or (some message)

/-- One `UPDATE deployments` statement.  `none` leaves a column alone, and
`statuses` is the status guard of the `WHERE` clause. -/
structure DeploymentUpdate where
  selector : Selector
  statuses : Option (List DeploymentStatus) := none
  status : Option DeploymentStatus := none
  state : Option DeploymentState := none
  errorMessage : ErrorColumn := .keep
  pid : Option (Option String) := none
  logPath : Option String := none
deriving DecidableEq

namespace DeploymentUpdate

/-- The row meets the clause. -/
def hits (update : DeploymentUpdate) (row : DeploymentRow) : Bool :=
  update.selector.selects row &&
    match update.statuses with
    | none => true
    | some statuses => statuses.contains row.status

/-- What `SET` makes of a row. -/
def change (update : DeploymentUpdate) (row : DeploymentRow) : DeploymentRow :=
  { row with
    status := update.status.getD row.status
    state := update.state.getD row.state
    errorMessage := update.errorMessage.apply row.errorMessage
    pid := update.pid.getD row.pid
    logPath := update.logPath.getD row.logPath }

end DeploymentUpdate

/-- Cancel the rows that no worker has claimed. -/
def cancelQueued (selector : Selector) : DeploymentUpdate :=
  { selector
    statuses := some [.queued]
    status := some .cancelled
    state := some .cancelled }

def cancelQueuedDeployment (id : Int) : DeploymentUpdate :=
  cancelQueued (.deployment id)

def cancelQueuedForApplication (id : Int) : DeploymentUpdate :=
  cancelQueued (.application id)

def cancelQueuedForCompose (id : Int) : DeploymentUpdate :=
  cancelQueued (.compose id)

def cancelQueuedForDatabase (id : Int) : DeploymentUpdate :=
  cancelQueued (.database id)

/-- The global clean-up of the queue. -/
def cleanupDeploymentQueue : DeploymentUpdate :=
  cancelQueued .all

/-- Record a cancellation request in the rows with one of the statuses. -/
def requestCancel (selector : Selector) (statuses : List DeploymentStatus) :
    DeploymentUpdate :=
  { selector
    statuses := some statuses
    status := some .cancelling
    state := some .cancelRequested }

/-- Only a running row can be cancelled. -/
def setCancelRequested (id : Int) : DeploymentUpdate :=
  requestCancel (.deployment id) [.running]

def requestCancelDeployment (id : Int) : DeploymentUpdate :=
  requestCancel (.application id) [.running]

def requestCancelDatabaseDeployment (id : Int) : DeploymentUpdate :=
  requestCancel (.database id) [.running, .building, .queued]

/-- Unlike its siblings, the compose request leaves the status alone. -/
def requestCancelComposeDeployment (id : Int) : DeploymentUpdate :=
  { selector := .compose id
    statuses := some [.running]
    state := some .cancelRequested }

/-- At a restart nothing is under way. -/
def markInterruptedAsRecovered : DeploymentUpdate :=
  { selector := .all
    statuses := some [.queued, .running, .cancelling]
    status := some .error
    state := some .recoveredAfterRestart
    errorMessage :=
      .fallback "server restarted before deployment completed" }

def updateLogPath (id : Int) (logPath : String) : DeploymentUpdate :=
  { selector := .deployment id, logPath := some logPath }

/-- The state of a row that has ended stays. -/
def updateStateIfRunning (id : Int) (state : DeploymentState)
    (message : Option String) : DeploymentUpdate :=
  { selector := .deployment id
    statuses := some [.running]
    state := some state
    errorMessage := .coalesce message }

def setPid (id : Int) (pid : String) : DeploymentUpdate :=
  { selector := .deployment id, pid := some (some pid) }

def setPidNull (id : Int) : DeploymentUpdate :=
  { selector := .deployment id, pid := some none }

/-- The arguments of `create_queued_*`. -/
structure NewDeployment where
  title : String
  description : String
  logPath : String
  operation : Operation
  key : ResourceKey
  serverId : Option Int
deriving DecidableEq

/-- The row as it is inserted. -/
def NewDeployment.row (new : NewDeployment) (id now : Int) : DeploymentRow :=
  { id
    title := new.title
    description := some new.description
    status := .queued
    state := .queue
    logPath := new.logPath
    pid := none
    errorMessage := none
    operation := some new.operation
    target := new.key.target
    serverId := new.serverId
    createdAt := now }

/-- The arguments of `finalize_with_resource`. -/
structure Finalization where
  id : Int
  deploymentStatus : DeploymentStatus
  errorMessage : Option String
  target : Target
  resourceStatus : ResourceStatus
deriving DecidableEq

/-- The first statement of the finalising transaction has no status guard. -/
def Finalization.update (final : Finalization) : DeploymentUpdate :=
  { selector := .deployment final.id
    status := some final.deploymentStatus
    state := some final.deploymentStatus.asState
    errorMessage := .coalesce final.errorMessage
    pid := some none }

/-- The tables whose rows `recover_stale_*_statuses` visits. -/
inductive ResourceFamily where
  | applications
  | composeProjects
  | databases (kind : DatabaseKind)
deriving DecidableEq

def ResourceKey.family : ResourceKey → ResourceFamily
  | .application _ => .applications
  | .compose _ => .composeProjects
  | .database kind _ => .databases kind

/-- The target columns equal the resource's, the database kind included. -/
def Target.pointsTo (target : Target) : ResourceKey → Bool
  | .application id => target.applicationId == some id
  | .compose id => target.composeId == some id
  | .database kind id =>
    target.databaseId == some id && target.databaseKind == some kind

/-- The queries of the repositories. -/
inductive Read where
  | hasActive (selector : Selector)
  | queuedCount
  | queuedIds (selector : Selector)
  | queuedDeploymentsGrouped
  | cancelInfo (id : Int)
  | running (selector : Selector)
  | runningRemoteJobs
  | recoveredRemoteJobs
  | resource (key : ResourceKey)
  | serverManagement (serverId : Int)
deriving DecidableEq

@[reducible] def Read.Answer : Read → Type
  | .hasActive _ => Bool
  | .queuedCount => Nat
  | .queuedIds _ => List Int
  | .queuedDeploymentsGrouped => List (Int × Option Int)
  | .cancelInfo _ => Option (Target × DeploymentStatus)
  | .running _ => Option RunningDeployment
  | .runningRemoteJobs => List (Int × Int × String)
  | .recoveredRemoteJobs => List (Int × Int × String)
  | .resource _ => Option Resource
  | .serverManagement _ => Option ServerManagement

/-- The statements of the repositories. -/
inductive Query where
  | read (what : Read)
  | update (statement : DeploymentUpdate)
  | claimQueuedDeployment (id : Int)
  | createQueued (new : NewDeployment)
  | finalizeWithResource (final : Finalization)
  | updateStatus (key : ResourceKey) (status : ResourceStatus)
  | recoverStaleStatuses (family : ResourceFamily)
  | createServerManagement (serverId : Int)
deriving DecidableEq

@[reducible] def Query.Answer : Query → Type
  | .read what => what.Answer
  | .update _ => Nat
  | .claimQueuedDeployment _ => Option DeploymentClaim
  | .createQueued _ => Int
  | .finalizeWithResource _ => Unit
  | .updateStatus _ _ => Unit
  | .recoverStaleStatuses _ => Unit
  | .createServerManagement _ => Unit

namespace Database

/-- `ORDER BY created_at ASC, id ASC`. -/
def earlier (first second : DeploymentRow) : Prop :=
  first.createdAt < second.createdAt ∨
    first.createdAt = second.createdAt ∧ first.id ≤ second.id

instance : DecidableRel earlier := fun first second =>
  inferInstanceAs (Decidable
    (first.createdAt < second.createdAt ∨
      first.createdAt = second.createdAt ∧ first.id ≤ second.id))

/-- The queue. -/
def queued (database : Database) : List DeploymentRow :=
  database.deployments.filter fun row => row.status == .queued

/-- A row with a pid file on a server. -/
def remoteJob (row : DeploymentRow) : Option (Int × Int × String) :=
  match row.serverId, row.pid with
  | some serverId, some pid => some (row.id, serverId, pid)
  | _, _ => none

/-- `ORDER BY id DESC LIMIT 1`. -/
def latest (rows : List DeploymentRow) : Option DeploymentRow :=
  rows.foldl
    (fun best row =>
      match best with
      | none => some row
      | some other => if other.id < row.id then some row else some other)
    none

/-- The row of a resource. -/
def resource? (database : Database) (key : ResourceKey) : Option Resource :=
  database.resources.find? fun resource => resource.key == key

/-- The answers of the queries. -/
def read (database : Database) : (what : Read) → what.Answer
  | .hasActive selector =>
    database.deployments.any fun row =>
      selector.selects row && row.status.active
  | .queuedCount => database.queued.length
  | .queuedIds selector =>
    (database.queued.filter selector.selects).map DeploymentRow.id
  | .queuedDeploymentsGrouped =>
    (database.queued.insertionSort earlier).map fun row =>
      (row.id, row.serverId)
  | .cancelInfo id =>
    (database.deployments.find? fun row => row.id == id).map fun row =>
      (row.target, row.status)
  | .running selector =>
    (latest (database.deployments.filter fun row =>
      selector.selects row && row.status == .running)).map fun row =>
        ⟨row.id, row.serverId, row.pid⟩
  | .runningRemoteJobs =>
    (database.deployments.filter fun row =>
      row.status == .running).filterMap remoteJob
  | .recoveredRemoteJobs =>
    (database.deployments.filter fun row =>
      row.status == .error &&
        row.state == .recoveredAfterRestart).filterMap remoteJob
  | .resource key => database.resource? key
  | .serverManagement serverId =>
    database.serverManagement.find? fun row => row.serverId == serverId

/-- A constraint on a column is checked on the rows an update reaches. -/
def updateDeployments (schema : Schema) (update : DeploymentUpdate)
    (database : Database) : Except SqlError (Database × Nat) :=
  let affected := database.deployments.countP update.hits
  if (update.status.all schema.deploymentStatus) = false ∧ 0 < affected then
    .error (.constraint .deploymentStatusCheck)
  else
    .ok
      ({ database with
          deployments :=
            updateWhere update.hits update.change database.deployments },
        affected)

/-- `UPDATE … RETURNING …` of the dispatcher. -/
def claimUpdate (id : Int) : DeploymentUpdate :=
  { selector := .deployment id
    statuses := some [.queued]
    status := some .running
    state := some .queue }

/-- `UPDATE … RETURNING`: one row, if still queued. -/
def claimQueuedDeployment (schema : Schema) (id : Int) (database : Database) :
    Except SqlError (Database × Option DeploymentClaim) :=
  let claimed := (database.deployments.find? (claimUpdate id).hits).map
    DeploymentRow.claim
  (database.updateDeployments schema (claimUpdate id)).map fun updated =>
    (updated.1, claimed)

/-- The unique index an active row of the resource falls under.  There is
none for databases. -/
def uniqueIndex : ResourceKey → Option Constraint
  | .application _ => some .oneActiveApplication
  | .compose _ => some .oneActiveCompose
  | .database _ _ => none

/-- A partial index admits one active row. -/
def createQueued (new : NewDeployment) (database : Database) :
    Except SqlError (Database × Int) :=
  let taken := database.deployments.any fun row =>
    row.status.active && row.target.names new.key
  match uniqueIndex new.key, taken with
  | some index, true => .error (.constraint index)
  | _, _ =>
    .ok
      ({ database with
          deployments := database.deployments ++
            [new.row database.nextId database.now]
          nextId := database.nextId + 1 },
        database.nextId)

/-- A `CHECK` constraint may refuse the status. -/
def updateStatus (schema : Schema) (key : ResourceKey)
    (status : ResourceStatus) (database : Database) :
    Except SqlError Database :=
  if schema.resourceStatus key status = false ∧
      (database.resources.any fun resource => resource.key == key) = true then
    .error (.constraint (.resourceStatusCheck key))
  else
    .ok
      { database with
        resources :=
          updateWhere (fun resource => resource.key == key)
            (fun resource => { resource with status }) database.resources }

/-- One transaction: an error of either statement undoes both. -/
def finalizeWithResource (schema : Schema) (final : Finalization)
    (database : Database) : Except SqlError Database := do
  let (updated, _) ← database.updateDeployments schema final.update
  match final.target.statusKey with
  | some key => updated.updateStatus schema key final.resourceStatus
  | none => pure updated

/-- The newest deployment of the resource was interrupted by a restart. -/
def recovered (database : Database) (key : ResourceKey) : Bool :=
  (latest (database.deployments.filter fun row =>
    row.target.pointsTo key)).any fun row =>
      row.state == .recoveredAfterRestart

/-- Every schema accepts the status `ERROR`. -/
def recoverStaleStatuses (family : ResourceFamily) (database : Database) :
    Database :=
  { database with
    resources :=
      updateWhere
        (fun resource => resource.key.family == family &&
          (resource.status.transitional || database.recovered resource.key))
        (fun resource => { resource with status := .error })
        database.resources }

def createServerManagement (serverId : Int) (database : Database) : Database :=
  if database.serverManagement.any fun row => row.serverId == serverId then
    database
  else
    { database with
      serverManagement := database.serverManagement ++ [⟨serverId, 0, none⟩] }

/-- What a statement does and answers. -/
def execute (schema : Schema) (database : Database) :
    (query : Query) → Except SqlError (Database × query.Answer)
  | .read what => .ok (database, database.read what)
  | .update statement => database.updateDeployments schema statement
  | .claimQueuedDeployment id => database.claimQueuedDeployment schema id
  | .createQueued new => database.createQueued new
  | .finalizeWithResource final =>
    (database.finalizeWithResource schema final).map fun next => (next, ())
  | .updateStatus key status =>
    (database.updateStatus schema key status).map fun next => (next, ())
  | .recoverStaleStatuses family =>
    .ok (database.recoverStaleStatuses family, ())
  | .createServerManagement serverId =>
    .ok (database.createServerManagement serverId, ())

end Database

namespace DeploymentUpdate

@[simp] theorem change_id (update : DeploymentUpdate) (row : DeploymentRow) :
    (update.change row).id = row.id :=
  rfl

@[simp] theorem change_target (update : DeploymentUpdate)
    (row : DeploymentRow) :
    (update.change row).target = row.target :=
  rfl

@[simp] theorem change_status (update : DeploymentUpdate)
    (row : DeploymentRow) :
    (update.change row).status = update.status.getD row.status :=
  rfl

theorem hits_guarded {update : DeploymentUpdate} {row : DeploymentRow}
    {statuses : List DeploymentStatus}
    (guarded : update.statuses = some statuses) :
    update.hits row = true ↔
      update.selector.selects row = true ∧ row.status ∈ statuses := by
  simp [hits, guarded]

end DeploymentUpdate

@[simp] theorem claimUpdate_hits {id : Int} {row : DeploymentRow} :
    (Database.claimUpdate id).hits row = true ↔
      row.id = id ∧ row.status = .queued := by
  rw [DeploymentUpdate.hits_guarded rfl]
  simp [Database.claimUpdate, Selector.selects]

@[simp] theorem finalization_hits {final : Finalization}
    {row : DeploymentRow} :
    final.update.hits row = true ↔ row.id = final.id := by
  simp [DeploymentUpdate.hits, Finalization.update, Selector.selects]

variable {query : Query} {statement : DeploymentUpdate} {answer : query.Answer}

namespace Query

/-- The update a statement applies to the rows of `deployments`. -/
def update? : Query → Option DeploymentUpdate
  | .update statement => some statement
  | .claimQueuedDeployment id => some (Database.claimUpdate id)
  | .finalizeWithResource final => some final.update
  | _ => none

/-- What a successful statement does to a row that was there before. -/
def rewrite (query : Query) (row : DeploymentRow) : DeploymentRow :=
  match query.update? with
  | some statement =>
    if statement.hits row then statement.change row else row
  | none => row

/-- The rows a successful statement adds. -/
def inserted : Query → Database → List DeploymentRow
  | .createQueued new, database => [new.row database.nextId database.now]
  | _, _ => []

/-- The status of a resource after a successful statement. -/
def status (query : Query) (database : Database) (resource : Resource) :
    ResourceStatus :=
  match query with
  | .updateStatus key status =>
    if resource.key == key then status else resource.status
  | .finalizeWithResource final =>
    if final.target.statusKey == some resource.key then
      final.resourceStatus
    else resource.status
  | .recoverStaleStatuses family =>
    if resource.key.family == family &&
        (resource.status.transitional ||
          database.recovered resource.key) then
      .error
    else resource.status
  | _ => resource.status

@[simp] theorem rewrite_id (query : Query) (row : DeploymentRow) :
    (query.rewrite row).id = row.id := by
  unfold rewrite
  split
  · split <;> rfl
  · rfl

@[simp] theorem rewrite_target (query : Query) (row : DeploymentRow) :
    (query.rewrite row).target = row.target := by
  unfold rewrite
  split
  · split <;> rfl
  · rfl

theorem rewrite_of_update (updates : query.update? = some statement)
    (row : DeploymentRow) :
    query.rewrite row =
      if statement.hits row then statement.change row else row := by
  simp [rewrite, updates]

theorem map_rewrite_of_none (updates : query.update? = none)
    (rows : List DeploymentRow) :
    rows.map query.rewrite = rows := by
  have same : query.rewrite = fun row => row := by
    funext row
    simp [rewrite, updates]
  rw [same, List.map_id']

theorem rewrite_status_of_neutral
    (neutral : ∀ statement, query.update? = some statement →
      statement.status = none) (row : DeploymentRow) :
    (query.rewrite row).status = row.status := by
  unfold rewrite
  split
  · rename_i statement updates
    split
    · simp [neutral statement updates]
    · rfl
  · rfl

end Query

namespace Database

variable {schema : Schema} {database next : Database}

theorem updateDeployments_ok {update : DeploymentUpdate} {affected : Nat}
    (succeeded : database.updateDeployments schema update =
      .ok (next, affected)) :
    next = { database with
        deployments :=
          updateWhere update.hits update.change database.deployments } ∧
      affected = database.deployments.countP update.hits ∧
      ∀ row ∈ database.deployments, update.hits row = true →
        update.status.all schema.deploymentStatus = true := by
  simp only [updateDeployments] at succeeded
  split at succeeded
  · cases succeeded
  · rename_i accepted
    cases succeeded
    refine ⟨rfl, rfl, ?_⟩
    intro row member hit
    by_contra rejected
    exact accepted ⟨by simpa using rejected,
      List.countP_pos_iff.mpr ⟨row, member, hit⟩⟩

theorem updateStatus_ok {key : ResourceKey} {status : ResourceStatus}
    (succeeded : database.updateStatus schema key status = .ok next) :
    next = { database with
        resources :=
          updateWhere (fun resource => resource.key == key)
            (fun resource => { resource with status })
            database.resources } := by
  simp only [updateStatus] at succeeded
  split at succeeded
  · cases succeeded
  · exact (Except.ok.inj succeeded).symm

theorem finalizeWithResource_ok {final : Finalization}
    (succeeded : database.finalizeWithResource schema final = .ok next) :
    next = { database with
        deployments :=
          updateWhere final.update.hits final.update.change
            database.deployments
        resources := final.target.statusKey.elim database.resources
          fun key => updateWhere (fun resource => resource.key == key)
            (fun resource => { resource with status := final.resourceStatus })
            database.resources } ∧
      ∀ row ∈ database.deployments, final.update.hits row = true →
        final.update.status.all schema.deploymentStatus = true := by
  simp only [finalizeWithResource] at succeeded
  cases updating : database.updateDeployments schema final.update with
  | error failure =>
    rw [updating] at succeeded
    cases succeeded
  | ok result =>
    obtain ⟨updated, affected⟩ := result
    obtain ⟨rfl, -, accepted⟩ := updateDeployments_ok updating
    refine ⟨?_, accepted⟩
    rw [updating] at succeeded
    cases addressed : final.target.statusKey with
    | none =>
      rw [addressed] at succeeded
      exact (Except.ok.inj succeeded).symm
    | some key =>
      rw [addressed] at succeeded
      exact updateStatus_ok succeeded

theorem finalizeWithResource_succeeds {final : Finalization}
    (status : schema.deploymentStatus final.deploymentStatus = true)
    (resource : ∀ key ∈ final.target.statusKey,
      schema.resourceStatus key final.resourceStatus = true) :
    ∃ next, database.finalizeWithResource schema final = .ok next := by
  have updates : ∃ updated, database.updateDeployments schema final.update =
      .ok updated := by
    have written : final.update.status.all schema.deploymentStatus = true := by
      simpa [Finalization.update] using status
    simp [updateDeployments, written]
  obtain ⟨⟨updated, affected⟩, updating⟩ := updates
  simp only [finalizeWithResource, updating]
  cases addressed : final.target.statusKey with
  | none => exact ⟨updated, rfl⟩
  | some key =>
    have accepted := resource key addressed
    simp [updateStatus, accepted, bind, Except.bind]

theorem claimQueuedDeployment_ok {id : Int} {claim : Option DeploymentClaim}
    (succeeded : database.claimQueuedDeployment schema id =
      .ok (next, claim)) :
    claim = (database.deployments.find? (claimUpdate id).hits).map
        DeploymentRow.claim ∧
      ∃ affected, database.updateDeployments schema (claimUpdate id) =
        .ok (next, affected) := by
  simp only [claimQueuedDeployment] at succeeded
  cases updating : database.updateDeployments schema (claimUpdate id) with
  | error failure =>
    rw [updating] at succeeded
    cases succeeded
  | ok result =>
    rw [updating] at succeeded
    cases succeeded
    exact ⟨rfl, result.2, rfl⟩

theorem createQueued_ok {new : NewDeployment} {id : Int}
    (succeeded : database.createQueued new = .ok (next, id)) :
    next = { database with
        deployments := database.deployments ++
          [new.row database.nextId database.now]
        nextId := database.nextId + 1 } ∧
      id = database.nextId ∧
      ∀ index, uniqueIndex new.key = some index →
        ∀ row ∈ database.deployments, row.status.active = true →
          row.target.names new.key = false := by
  simp only [createQueued] at succeeded
  split at succeeded
  · cases succeeded
  · rename_i free
    cases succeeded
    refine ⟨rfl, rfl, ?_⟩
    intro index indexed row member active
    by_contra named
    apply free index indexed
    exact List.any_eq_true.mpr ⟨row, member, by simpa [active] using named⟩

private theorem updateWhere_status (hits : Resource → Bool)
    (status : ResourceStatus) (resources : List Resource) :
    updateWhere hits (fun resource => { resource with status }) resources =
      resources.map fun resource =>
        { resource with
          status := if hits resource then status else resource.status } := by
  apply List.map_congr_left
  intro resource _
  by_cases hit : hits resource
  · simp [hit]
  · simp [hit]

/-- What a successful statement leaves.  It rewrites rows in place and appends
what it inserts, but never removes a row; of the resources it changes nothing
but statuses. -/
structure Executed (query : Query) (database next : Database) : Prop where
  deployments : next.deployments =
    database.deployments.map query.rewrite ++ query.inserted database
  nextId : next.nextId = database.nextId + (query.inserted database).length
  resources : next.resources = database.resources.map fun resource =>
    { resource with status := query.status database resource }
  now : next.now = database.now
  serverManagement :
    (∀ serverId, query ≠ .createServerManagement serverId) →
      next.serverManagement = database.serverManagement

private theorem ok_of_map {result : Except SqlError Database}
    (succeeded : (result.map fun next => (next, ())) = .ok (next, ())) :
    result = .ok next := by
  cases result with
  | error failure => cases succeeded
  | ok value =>
    cases succeeded
    rfl

section

variable (succeeded : database.execute schema query = .ok (next, answer))

include succeeded

theorem execute_ok : Executed query database next := by
  have plain : query.update? = none → query.inserted database = [] →
      database.deployments =
        database.deployments.map query.rewrite ++ query.inserted database := by
    intro updates inserts
    rw [Query.map_rewrite_of_none updates, inserts, List.append_nil]
  have written : ∀ statement, query.update? = some statement →
      query.inserted database = [] →
      updateWhere statement.hits statement.change database.deployments =
        database.deployments.map query.rewrite ++ query.inserted database := by
    intro statement updates inserts
    rw [inserts, List.append_nil]
    exact List.map_congr_left fun row _ =>
      (Query.rewrite_of_update updates row).symm
  have unchanged : database.resources = database.resources.map
      fun resource => { resource with status := resource.status } := by
    simp
  have same : database.nextId = database.nextId + (0 : Nat) := by simp
  cases query with
  | read what =>
    cases succeeded
    exact ⟨plain rfl rfl, same, unchanged, rfl, fun _ => rfl⟩
  | createQueued new =>
    rw [(createQueued_ok succeeded).1]
    refine ⟨?_, rfl, unchanged, rfl, fun _ => rfl⟩
    rw [Query.map_rewrite_of_none rfl]
    rfl
  | update statement =>
    rw [(updateDeployments_ok succeeded).1]
    exact ⟨written _ rfl rfl, same, unchanged, rfl, fun _ => rfl⟩
  | claimQueuedDeployment id =>
    obtain ⟨_, affected, updating⟩ := claimQueuedDeployment_ok succeeded
    rw [(updateDeployments_ok updating).1]
    exact ⟨written _ rfl rfl, same, unchanged, rfl, fun _ => rfl⟩
  | createServerManagement serverId =>
    cases succeeded
    simp only [createServerManagement]
    split <;> exact ⟨plain rfl rfl, same, unchanged, rfl,
      fun other => absurd rfl (other serverId)⟩
  | updateStatus key status =>
    rw [updateStatus_ok (ok_of_map succeeded)]
    exact ⟨plain rfl rfl, same, updateWhere_status _ _ _, rfl,
      fun _ => rfl⟩
  | recoverStaleStatuses family =>
    cases succeeded
    exact ⟨plain rfl rfl, same, updateWhere_status _ _ _, rfl,
      fun _ => rfl⟩
  | finalizeWithResource final =>
    rw [(finalizeWithResource_ok (ok_of_map succeeded)).1]
    refine ⟨written _ rfl rfl, same, ?_, rfl, fun _ => rfl⟩
    cases addressed : final.target.statusKey with
    | none => simp [Query.status, addressed]
    | some key =>
      simp only [Query.status, addressed, Option.elim_some]
      apply List.map_congr_left
      intro other _
      by_cases same : other.key = key
      · simp [same]
      · simp [same, Ne.symm same]

theorem execute_accepted (updates : query.update? = some statement)
    {row : DeploymentRow} (member : row ∈ database.deployments)
    (hit : statement.hits row = true) :
    statement.status.all schema.deploymentStatus = true := by
  cases query with
  | update update =>
    cases updates
    exact (updateDeployments_ok succeeded).2.2 row member hit
  | claimQueuedDeployment id =>
    cases updates
    obtain ⟨_, affected, updating⟩ := claimQueuedDeployment_ok succeeded
    exact (updateDeployments_ok updating).2.2 row member hit
  | finalizeWithResource final =>
    cases updates
    exact (finalizeWithResource_ok (ok_of_map succeeded)).2 row member hit
  | _ => cases updates

end

end Database

end OpenOxide.Deployment
