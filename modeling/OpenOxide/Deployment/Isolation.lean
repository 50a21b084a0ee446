import OpenOxide.Deployment.Requests

/-!
# Databases of different kinds

Every kind of database has a table of its own, so two databases of different
kinds may have the same identifier.  The resource tables and the finalising
transaction use kind and identifier; the busy check, the statements that cancel
and the map of tokens use the identifier alone.  This module says what a call
of one database can do to another, and when it does nothing.
-/

namespace OpenOxide.Deployment

open Concurrency Program Relational

/-- `run_operation` and `cancel_operation` of the database service. -/
inductive DatabaseCall where
  | run (operation : ServiceOperation)
  | cancel

def DatabaseCall.perform (config : Config) (kind : DatabaseKind) (id : Int) :
    DatabaseCall → Action Unit
  | run operation => do
      let _ ← (runDatabaseOperation config kind id operation).run
      pure ()
  | cancel => do
      let _ ← stopDatabase kind id
      pure ()

/-- A panel on which no operation fails. -/
def clear (panel : Panel) : Trial :=
  ⟨panel, fun _ => .normal⟩

/-- Whether `run_operation` accepts a request when none of its steps fails. -/
def accepts (config : Config) (panel : Panel) (kind : DatabaseKind)
    (id : Int) (operation : ServiceOperation) : Bool :=
  ((runDatabaseOperation config kind id operation).run.eval
    (Panel.trial config .migrations) (clear panel)).2.isOk

namespace Database

def waiting (database : Database) : Nat :=
  database.queued.length

def waitingFor (database : Database) (id : Int) : Nat :=
  (database.queued.filter (Selector.database id).selects).length

def busy (database : Database) (id : Int) : Bool :=
  database.read (.hasActive (.database id))

def runningFor (database : Database) (id : Int) : Bool :=
  database.deployments.any fun row =>
    (Selector.database id).selects row && row.status == .running

/-- The record exists and its server takes deployments. -/
def welcome (database : Database) (key : ResourceKey) : Bool :=
  (database.resource? key).any fun record =>
    database.deployable record.serverId

/-- The state under which a request for a database is accepted. -/
def admits (config : Config) (database : Database) (kind : DatabaseKind)
    (id : Int) : Bool :=
  database.welcome (.database kind id) && !database.busy id &&
    decide ((database.waiting : Int) < config.maxSize)

end Database

variable {record : Resource}

section

variable {config : Config} {schema : Schema} {trial : Trial}
  {kind : DatabaseKind} {id : Int} {operation : ServiceOperation}

/-- The statements after the insertion of a database's row. -/
def finishDatabase (config : Config) (kind : DatabaseKind) (id : Int)
    (operation : ServiceOperation) (deploymentId : Int) :
    SqlAction OperationResult := do
  let _ ← sql (.update
    (updateLogPath deploymentId (config.deploymentLogFile deploymentId)))
  resolve
  ExceptT.lift notify
  let database ← getById (.database kind id)
  pure ⟨database, some deploymentId, operation.operation⟩

/-- `run_operation` of the database service past its checks. -/
def insertDatabase (config : Config) (kind : DatabaseKind) (id : Int)
    (operation : ServiceOperation) (record : Resource) :
    SqlAction OperationResult := do
  updateDatabaseStatus kind id .starting
  let deploymentId : Int ← sql (.createQueued
    (databaseDeployment operation kind id record.serverId record.name))
  finishDatabase config kind id operation deploymentId

theorem checks_getServerIdAndName
    (found : trial.state.database.resource? (.database kind id) =
      some record) :
    Checks config schema (getServerIdAndName kind id) trial
      ((trial.inputs 0).healthy = true) (trial.skip 1)
      (record.serverId, record.name) :=
  ((checks_fetchOne found).next fun _ => comes_here).congr
    (Iff.of_eq (and_true _))

theorem comes_database {record : Resource}
    (found : trial.state.database.resource? (.database kind id) =
      some record) :
    Comes config schema (queueDatabaseOperation config kind id operation)
      trial (Admission config (.database kind id) record true trial)
      (admitted trial true record.serverId)
      (insertDatabase config kind id operation record) :=
  ((checks_read _).next fun _ => (checks_refuseIf _ _).next fun _ =>
    checks_resolve.next fun _ => checks_ensureCapacity.next fun _ =>
    (checks_getServerIdAndName (by exact found)).next fun _ =>
    checks_resolve.next fun _ =>
    (checks_assertDeployable _).next fun _ => comes_here).congr
      admission_of_checks

theorem database_missing
    (missing : trial.state.database.resource? (.database kind id) = none) :
    Refuses config schema (queueDatabaseOperation config kind id operation)
      trial :=
  (checks_read _).refuses fun _ => (checks_refuseIf _ _).refuses fun _ =>
    checks_resolve.refuses fun _ => checks_ensureCapacity.refuses fun _ =>
    (fetchOne_refuses (by exact missing)).andThen.andThen

end

/-- The rows once the queued ones with a database identifier are cancelled. -/
def dropQueued (id : Int) (rows : List DeploymentRow) : List DeploymentRow :=
  updateWhere (cancelQueued (.database id)).hits
    (cancelQueued (.database id)).change rows

theorem dropQueued_dropQueued (id : Int) (rows : List DeploymentRow) :
    dropQueued id (dropQueued id rows) = dropQueued id rows := by
  apply updateWhere_updateWhere
  simp [DeploymentUpdate.hits, cancelQueued, DeploymentUpdate.change]

/-- The rows after a call of a database: unchanged, or with its identifier's
queued rows cancelled, or with one new queued row of its own. -/
inductive RowEffect (config : Config) (kind : DatabaseKind) (id : Int)
    (database : Database) : List DeploymentRow → Prop where
  | same : RowEffect config kind id database database.deployments
  | cancelled :
      RowEffect config kind id database
        (dropQueued id database.deployments)
  | queued {row : DeploymentRow}
      (admits : database.admits config kind id = true)
      (target : row.target = (ResourceKey.database kind id).target)
      (status : row.status = .queued) :
      RowEffect config kind id database (database.deployments ++ [row])

structure Effect (config : Config) (kind : DatabaseKind) (id : Int)
    (before after : Panel) : Prop where
  rows : RowEffect config kind id before.database after.database.deployments
  tokens : after.memory.tokens = before.memory.tokens
  cancelled : after.memory.cancelled = before.memory.cancelled ∨
    ∃ token, before.memory.tokens (.databaseId id) = some token ∧
      after.memory.cancelled =
        Function.update before.memory.cancelled token true
  records : ∀ key, key ≠ .database kind id →
    after.database.resource? key = before.database.resource? key
  deployable : ∀ server,
    after.database.deployable server = before.database.deployable server

variable {panel : Panel}

section

variable {config : Config} {schema : Schema} {trial : Trial}
  {kind : DatabaseKind} {id : Int} {operation : ServiceOperation}

variable {next database : Database}

theorem resource?_of_status {query : Query}
    {answer : query.Answer} {key : ResourceKey}
    (succeeded : database.execute schema query = .ok (next, answer))
    (kept : ∀ resource, resource.key = key →
      query.status database resource = resource.status) :
    next.resource? key = database.resource? key := by
  rw [Database.resource?, (Database.execute_ok succeeded).resources,
    List.find?_map]
  change Option.map _ (database.resource? key) = database.resource? key
  cases found : database.resource? key with
  | none => rfl
  | some record =>
    have own : record.key = key := by
      simpa using List.find?_some found
    simp [kept record own]

theorem deployable_of_management
    (same : next.serverManagement = database.serverManagement)
    (server : Option Int) :
    next.deployable server = database.deployable server := by
  cases server with
  | none => rfl
  | some serverId => simp only [Database.deployable, Database.read, same]

/-- What the steps of a stop call do. -/
structure Stopped (kind : DatabaseKind) (id : Int) (before after : Panel) :
    Prop where
  rows : after.database.deployments = before.database.deployments ∨
    after.database.deployments =
      dropQueued id before.database.deployments
  tokens : after.memory.tokens = before.memory.tokens
  cancelled : after.memory.cancelled = before.memory.cancelled ∨
    ∃ token, before.memory.tokens (.databaseId id) = some token ∧
      after.memory.cancelled =
        Function.update before.memory.cancelled token true
  records : ∀ key, key ≠ .database kind id →
    after.database.resource? key = before.database.resource? key
  deployable : ∀ server,
    after.database.deployable server = before.database.deployable server

variable {second first third : Panel}

namespace Stopped

theorem refl (panel : Panel) : Stopped kind id panel panel :=
  ⟨Or.inl rfl, rfl, Or.inl rfl, fun _ _ => rfl, fun _ => rfl⟩

theorem dropped (before : Stopped kind id first second) :
    dropQueued id second.database.deployments =
      dropQueued id first.database.deployments := by
  rcases before.rows with same | cancelled
  · rw [same]
  · rw [cancelled, dropQueued_dropQueued]

theorem trans (before : Stopped kind id first second)
    (after : Stopped kind id second third) :
    Stopped kind id first third where
  rows := by
    rcases after.rows with same | again
    · rw [same]
      exact before.rows
    · exact Or.inr (again.trans before.dropped)
  tokens := after.tokens.trans before.tokens
  cancelled := by
    rcases before.cancelled with same | ⟨token, held, cancelled⟩
    · rw [← same, ← before.tokens]
      exact after.cancelled
    · refine Or.inr ⟨token, held, ?_⟩
      rcases after.cancelled with same | ⟨other, heldLater, again⟩
      · rw [same, cancelled]
      · obtain rfl : token = other := by
          rw [before.tokens, held] at heldLater
          exact Option.some.inj heldLater
        rw [again, cancelled, Function.update_idem]
  records key other :=
    (after.records key other).trans (before.records key other)
  deployable server :=
    (after.deployable server).trans (before.deployable server)

theorem token_stays {before after : Panel} {token : Nat}
    (stopped : Stopped kind id before after)
    (cancelled : before.memory.cancelled token = true) :
    after.memory.cancelled token = true := by
  rcases stopped.cancelled with same | ⟨other, _, updated⟩
  · rw [same]
    exact cancelled
  · rw [updated]
    by_cases same : token = other
    · rw [same, Function.update_self]
    · rw [Function.update_of_ne same]
      exact cancelled

theorem effect {before after : Panel} (stopped : Stopped kind id before after) :
    Effect config kind id before after where
  rows := by
    rcases stopped.rows with same | cancelled
    · exact same ▸ .same
    · exact cancelled ▸ .cancelled
  tokens := stopped.tokens
  cancelled := stopped.cancelled
  records := stopped.records
  deployable := stopped.deployable

/-- A statement of a stop call. -/
theorem of_sql {query : Query}
    (rows : ∀ next answer,
      trial.state.database.execute schema query = .ok (next, answer) →
      next.deployments = trial.state.database.deployments ∨
        next.deployments =
          dropQueued id trial.state.database.deployments)
    (status : ∀ database resource, resource.key ≠ .database kind id →
      query.status database resource = resource.status)
    (other : ∀ serverId, query ≠ .createServerManagement serverId) :
    Stopped kind id trial.state
      (Panel.trial config schema (.sql query) trial).1.state := by
  refine Database.attempt_induction
    (fun next => Stopped kind id trial.state
      { trial.state with database := next }) (refl _) ?_
  intro next answer succeeded
  refine ⟨rows next answer succeeded, rfl, Or.inl rfl, ?_,
    deployable_of_management
      ((Database.execute_ok succeeded).serverManagement other)⟩
  intro key foreign
  apply resource?_of_status succeeded
  rintro resource rfl
  exact status _ resource foreign

theorem of_read (what : Read) :
    Stopped kind id trial.state
      (Panel.trial config schema (.sql (.read what)) trial).1.state := by
  apply of_sql
  · rintro next answer ⟨⟩
    exact Or.inl rfl
  · intro _ _ _
    rfl
  · simp

theorem of_update {update : DeploymentUpdate}
    (rows : ∀ next affected,
      trial.state.database.updateDeployments schema update =
        .ok (next, affected) →
      next.deployments = trial.state.database.deployments ∨
        next.deployments =
          dropQueued id trial.state.database.deployments) :
    Stopped kind id trial.state
      (Panel.trial config schema (.sql (.update update)) trial).1.state := by
  apply of_sql
  · exact rows
  · intro _ _ _
    rfl
  · simp

theorem of_stopOp {op : Op} (stops : StopOp (.database kind id) op) :
    Stopped kind id trial.state
      (Panel.trial config .migrations op trial).1.state := by
  cases stops with
  | record => exact of_read _
  | queuedIds => exact of_read _
  | mark status =>
    apply of_sql
    · intro next answer succeeded
      have rows := (Database.execute_ok succeeded).deployments
      refine Or.inl (rows.trans ?_)
      rw [Query.map_rewrite_of_none rfl]
      exact List.append_nil _
    · intro database resource other
      simp [Query.status, other]
    · simp
  | cancelQueued =>
    apply of_update
    intro next affected succeeded
    rw [(Database.updateDeployments_ok succeeded).1]
    exact Or.inr rfl
  | requestCancel =>
    apply of_update
    intro next affected succeeded
    obtain ⟨result, _, accepted⟩ := Database.updateDeployments_ok succeeded
    rw [result]
    refine Or.inl (updateWhere_of_missed ?_)
    intro row member
    by_contra hit
    exact Bool.false_ne_true (accepted row member (by simpa using hit))
  | cancelToken =>
    change Stopped kind id trial.state
      { trial.state with
        memory := (trial.state.memory.perform config
          (.cancelById (.databaseId id))).1 }
    cases held : trial.state.memory.tokens (.databaseId id) with
    | none =>
      simp only [Memory.perform, held]
      exact refl _
    | some token =>
      simp only [Memory.perform, held]
      exact ⟨Or.inl rfl, rfl, Or.inr ⟨token, held, rfl⟩, fun _ _ => rfl,
        fun _ => rfl⟩
  | resolve => exact refl _
  | spawn own => exact refl _

theorem of_only {α : Type} {program : Action α}
    (only : program.Only (StopOp (.database kind id))) (trial : Trial) :
    Stopped kind id trial.state
      (program.eval (Panel.trial config .migrations) trial).1.state := by
  refine eval_only
    (fun before after : Trial => Stopped kind id before.state after.state)
    (fun _ => refl _) trans ?_ only trial
  intro op trial stops
  exact of_stopOp stops

end Stopped

/-- The operations of a request after its insertion. -/
inductive FinishOp (key : ResourceKey) (deploymentId : Int) : Op → Prop where
  | logPath (path : String) :
      FinishOp key deploymentId
        (.sql (.update (updateLogPath deploymentId path)))
  | resolve : FinishOp key deploymentId (.outside .resolve)
  | notify : FinishOp key deploymentId (.memory .notify)
  | record : FinishOp key deploymentId (.sql (.read (.resource key)))

theorem finishDatabase_only (deploymentId : Int) :
    (finishDatabase config kind id operation deploymentId).run.Only
      (FinishOp (.database kind id) deploymentId) := by
  refine Only.andThen (only_perform (.logPath _)) fun _ =>
    Only.andThen ?_ fun _ => Only.andThen (Only.lift (only_perform .notify))
      fun _ => Only.andThen ?_ fun _ => trivial
  · refine (only_perform .resolve).bind fun outcome => ?_
    cases outcome <;> trivial
  · refine (only_perform .record).bind fun outcome => ?_
    rcases outcome with _ | _ | _ <;> trivial

/-- Nothing but the log path of the last row and the wake-up permit changes. -/
structure Finishes (deploymentId : Int) (before after : Panel) : Prop where
  rows : ∀ old row, before.database.deployments = old ++ [row] →
    (∀ other ∈ old, other.id ≠ deploymentId) →
    ∃ left, after.database.deployments = old ++ [left] ∧
      left.target = row.target ∧ left.status = row.status
  tokens : after.memory.tokens = before.memory.tokens
  cancelled : after.memory.cancelled = before.memory.cancelled
  resources : after.database.resources = before.database.resources
  serverManagement :
    after.database.serverManagement = before.database.serverManagement

namespace Finishes

variable {deploymentId : Int}

theorem refl (panel : Panel) : Finishes deploymentId panel panel :=
  ⟨fun _ row rows _ => ⟨row, rows, rfl, rfl⟩, rfl, rfl, rfl, rfl⟩

theorem trans (before : Finishes deploymentId first second)
    (after : Finishes deploymentId second third) :
    Finishes deploymentId first third where
  rows old row rows fresh := by
    obtain ⟨middle, middleRows, target, status⟩ :=
      before.rows old row rows fresh
    obtain ⟨left, leftRows, leftTarget, leftStatus⟩ :=
      after.rows old middle middleRows fresh
    exact ⟨left, leftRows, leftTarget.trans target,
      leftStatus.trans status⟩
  tokens := after.tokens.trans before.tokens
  cancelled := after.cancelled.trans before.cancelled
  resources := after.resources.trans before.resources
  serverManagement := after.serverManagement.trans before.serverManagement

theorem of_sql {query : Query}
    (executed : ∀ next answer,
      trial.state.database.execute schema query = .ok (next, answer) →
      Finishes deploymentId trial.state
        { trial.state with database := next }) :
    Finishes deploymentId trial.state
      (Panel.trial config schema (.sql query) trial).1.state :=
  Database.attempt_induction (fun next => Finishes deploymentId trial.state
    { trial.state with database := next }) (refl _) executed

theorem of_finishOp {key : ResourceKey} {op : Op}
    (finishes : FinishOp key deploymentId op) :
    Finishes deploymentId trial.state
      (Panel.trial config schema op trial).1.state := by
  cases finishes with
  | resolve => exact refl _
  | notify =>
    exact ⟨fun _ row rows _ => ⟨row, rows, rfl, rfl⟩, rfl, rfl, rfl, rfl⟩
  | record =>
    apply of_sql
    rintro next answer ⟨⟩
    exact refl _
  | logPath path =>
    apply of_sql
    intro next answer succeeded
    let update := updateLogPath deploymentId path
    have updating : trial.state.database.updateDeployments schema update =
        .ok (next, answer) := succeeded
    rw [(Database.updateDeployments_ok updating).1]
    refine ⟨?_, rfl, rfl, rfl, rfl⟩
    intro old row rows fresh
    refine ⟨if update.hits row then update.change row else row, ?_, ?_, ?_⟩
    · have missed : ∀ other ∈ old, update.hits other = false := by
        intro other member
        simpa [update, updateLogPath, DeploymentUpdate.hits,
          Selector.selects] using fresh other member
      rw [rows, updateWhere, List.map_append, ← updateWhere,
        updateWhere_of_missed missed]
      rfl
    · split <;> rfl
    · split <;> rfl

theorem of_finishDatabase (starts : trial.state = panel) :
    Finishes deploymentId panel
      ((finishDatabase config kind id operation deploymentId).run.eval
        (Panel.trial config schema) trial).1.state := by
  subst starts
  refine eval_only
    (fun before after : Trial =>
      Finishes deploymentId before.state after.state)
    (fun _ => refl _) trans ?_ (finishDatabase_only deploymentId) trial
  intro op trial finishes
  exact of_finishOp finishes

end Finishes

/-- The checks and the status write of a request: no row changes, and no record
but its own. -/
structure Marked (kind : DatabaseKind) (id : Int) (before after : Panel) :
    Prop where
  deployments : after.database.deployments = before.database.deployments
  nextId : after.database.nextId = before.database.nextId
  memory : after.memory = before.memory
  records : ∀ key, key ≠ .database kind id →
    after.database.resource? key = before.database.resource? key
  deployable : ∀ server,
    after.database.deployable server = before.database.deployable server

namespace Marked

theorem of_untouched {before after : Panel}
    (untouched : Untouched before after) : Marked kind id before after where
  deployments := untouched.deployments
  nextId := untouched.nextId
  memory := untouched.memory
  records key _ := by
    rw [Database.resource?, untouched.resources]
    rfl
  deployable := untouched.deployable

theorem trans (before : Marked kind id first second)
    (after : Marked kind id second third) : Marked kind id first third where
  deployments := after.deployments.trans before.deployments
  nextId := after.nextId.trans before.nextId
  memory := after.memory.trans before.memory
  records key other :=
    (after.records key other).trans (before.records key other)
  deployable server :=
    (after.deployable server).trans (before.deployable server)

theorem effect {before after : Panel} (marked : Marked kind id before after) :
    Effect config kind id before after where
  rows := marked.deployments ▸ .same
  tokens := by rw [marked.memory]
  cancelled := Or.inl (by rw [marked.memory])
  records := marked.records
  deployable := marked.deployable

theorem of_updateStatus {status : ResourceStatus} {answer : Unit}
    (succeeded : panel.database.execute schema
      (.updateStatus (.database kind id) status) = .ok (next, answer)) :
    Marked kind id panel { panel with database := next } where
  deployments := by
    rw [(Database.execute_ok succeeded).deployments,
      Query.map_rewrite_of_none rfl]
    exact List.append_nil _
  nextId := by
    rw [(Database.execute_ok succeeded).nextId]
    exact Int.add_zero _
  memory := rfl
  records key other := by
    apply resource?_of_status succeeded
    rintro resource rfl
    simp [Query.status, other]
  deployable := deployable_of_management
    ((Database.execute_ok succeeded).serverManagement (by simp))

end Marked

/-- A row that is inserted and then finished is the one new row. -/
theorem Finishes.effect {panel middle after : Panel} {new : NewDeployment}
    (ids : Ids panel.database)
    (admits : panel.database.admits config kind id = true)
    (marked : Marked kind id panel middle)
    (own : new.key = .database kind id)
    (finishes : Finishes middle.database.nextId
      { middle with
        database :=
          { middle.database with
            deployments := middle.database.deployments ++
              [new.row middle.database.nextId middle.database.now]
            nextId := middle.database.nextId + 1 } } after) :
    Effect config kind id panel after where
  rows := by
    obtain ⟨left, leftRows, target, status⟩ := finishes.rows
      middle.database.deployments _ rfl fun other member same => by
        rw [marked.deployments] at member
        have bound := ids.bound other member
        rw [same, marked.nextId] at bound
        exact lt_irrefl _ bound
    rw [leftRows, marked.deployments]
    exact .queued admits (target.trans (congrArg ResourceKey.target own)) status
  tokens := by
    rw [finishes.tokens]
    exact congrArg Memory.tokens marked.memory
  cancelled := by
    refine Or.inl ?_
    rw [finishes.cancelled]
    exact congrArg Memory.cancelled marked.memory
  records key other := by
    rw [Database.resource?, finishes.resources]
    exact marked.records key other
  deployable server :=
    (deployable_of_management finishes.serverManagement server).trans
      (marked.deployable server)

/-- Past its checks, a request either inserts no row or inserts one row of its
own. -/
theorem insertDatabase_effect (ids : Ids panel.database)
    (admits : panel.database.admits config kind id = true)
    (marked : Marked kind id panel trial.state) :
    Effect config kind id panel
      ((insertDatabase config kind id operation record).run.eval
        (Panel.trial config schema) trial).1.state := by
  rw [insertDatabase, updateDatabaseStatus]
  rcases @trial_cases config schema trial
      (.updateStatus (.database kind id) .starting) with
    ⟨error, fails⟩ | ⟨next, answer, passes, succeeded⟩
  · rw [eval_andThen_error fails]
    exact marked.effect
  · rw [eval_andThen_ok passes]
    have status := marked.trans (Marked.of_updateStatus succeeded)
    rcases @trial_cases config schema
        ⟨{ trial.state with database := next }, (trial.skip 1).inputs⟩
        (.createQueued (databaseDeployment operation kind id
          record.serverId record.name)) with
      ⟨error, fails⟩ | ⟨last, deploymentId, inserts, inserted⟩
    · rw [eval_andThen_error fails]
      exact status.effect
    · rw [eval_andThen_ok inserts]
      have creates : next.createQueued (databaseDeployment operation kind id
          record.serverId record.name) = .ok (last, deploymentId) := inserted
      obtain ⟨rfl, rfl, _⟩ := Database.createQueued_ok creates
      exact @Finishes.effect _ _ _ _ { trial.state with database := next } _
        (databaseDeployment operation kind id record.serverId record.name)
        ids admits status rfl (Finishes.of_finishDatabase rfl)

theorem admits_of_admission {inputs : Nat → Input}
    (found : panel.database.resource? (.database kind id) = some record)
    (admission : Admission config (.database kind id) record true
      ⟨panel, inputs⟩) :
    panel.database.admits config kind id = true := by
  have welcome : panel.database.welcome (.database kind id) = true := by
    simp only [Database.welcome, found, Option.any_some]
    exact admission.deployable rfl
  have idle : panel.database.busy id = false := admission.idle
  have room : (panel.database.waiting : Int) < config.maxSize :=
    admission.room
  simp [Database.admits, welcome, idle, room]

/-- `run_operation` of a database, under any failures of its steps. -/
theorem queueDatabase_effect (ids : Ids panel.database)
    (inputs : Nat → Input) :
    Effect config kind id panel
      ((queueDatabaseOperation config kind id operation).run.eval
        (Panel.trial config schema) ⟨panel, inputs⟩).1.state := by
  have refused (refuses : Refuses config schema
      (queueDatabaseOperation config kind id operation) ⟨panel, inputs⟩) :
      Effect config kind id panel
        ((queueDatabaseOperation config kind id operation).run.eval
          (Panel.trial config schema) ⟨panel, inputs⟩).1.state := by
    obtain ⟨failed, error, fails, kept⟩ := refuses
    rw [fails]
    exact (Marked.of_untouched kept).effect
  cases found : panel.database.resource? (.database kind id) with
  | none => exact refused (database_missing found)
  | some record =>
    have comes := @comes_database config schema ⟨panel, inputs⟩ kind id
      operation record found
    by_cases admission : Admission config (.database kind id) record true
        ⟨panel, inputs⟩
    · obtain ⟨arrives, kept⟩ := comes.pass admission
      rw [arrives]
      exact insertDatabase_effect ids (admits_of_admission found admission)
        (.of_untouched kept)
    · exact refused (comes.fail admission)

theorem runStop_only :
    (runDatabaseOperation config kind id .stop).run.Only
      (StopOp (.database kind id)) :=
  Only.andThen (stopCall_only (.database kind id)) fun _ =>
    Only.andThen getById_only fun _ => trivial

/-- What a call of a database does, under any failures of its steps. -/
theorem call_effect {panel : Panel} (ids : Ids panel.database)
    (inputs : Nat → Input) (call : DatabaseCall) :
    Effect config kind id panel
      ((call.perform config kind id).eval
        (Panel.trial config .migrations) ⟨panel, inputs⟩).1.state := by
  cases call with
  | cancel =>
    have stopped : Stopped kind id panel ((stopDatabase kind id).eval
        (Panel.trial config .migrations) ⟨panel, inputs⟩).1.state :=
      Stopped.of_only (stopCall_only (.database kind id)) ⟨panel, inputs⟩
    simp only [DatabaseCall.perform, eval_bind, eval_pure]
    exact stopped.effect
  | run operation =>
    simp only [DatabaseCall.perform, eval_bind, eval_pure]
    cases operation with
    | stop =>
      have stopped : Stopped kind id panel
          ((runDatabaseOperation config kind id .stop).run.eval
            (Panel.trial config .migrations) ⟨panel, inputs⟩).1.state :=
        Stopped.of_only runStop_only ⟨panel, inputs⟩
      exact stopped.effect
    | _ => exact queueDatabase_effect ids inputs

theorem finishDatabase_succeeds {deploymentId : Int}
    (healthy : ∀ position, (trial.inputs position).healthy = true)
    (found : (trial.state.database.resource? (.database kind id)).isSome =
      true) :
    ((finishDatabase config kind id operation deploymentId).run.eval
      (Panel.trial config schema) trial).2.isOk = true := by
  let update :=
    updateLogPath deploymentId (config.deploymentLogFile deploymentId)
  have updates : trial.state.database.execute schema (.update update) =
      .ok ({ trial.state.database with
          deployments := updateWhere update.hits update.change
            trial.state.database.deployments },
        trial.state.database.deployments.countP update.hits) := by
    simp [Database.execute, Database.updateDeployments, update, updateLogPath]
  obtain ⟨record, reads⟩ := Option.isSome_iff_exists.mp found
  rw [finishDatabase, eval_andThen_ok (trial_ok (healthy 0) updates),
    eval_andThen_ok (checks_resolve.pass (healthy 1)).1,
    eval_andThen_ok (eval_lift _),
    eval_andThen_ok ((checks_getById (by exact reads)).pass (healthy 3)).1]
  rfl

/-- Past its checks, a request whose steps all succeed inserts its row. -/
theorem insertDatabase_succeeds {record : Resource}
    (healthy : ∀ position, (trial.inputs position).healthy = true)
    (found : (trial.state.database.resource? (.database kind id)).isSome =
      true) :
    let outcome :=
      (insertDatabase config kind id operation record).run.eval
        (Panel.trial config .migrations) trial
    outcome.2.isOk = true ∧
      ((∀ row ∈ trial.state.database.deployments,
          row.id < trial.state.database.nextId) →
        ∃ row, outcome.1.state.database.deployments =
            trial.state.database.deployments ++ [row] ∧
          row.target = (ResourceKey.database kind id).target ∧
          row.status = .queued) := by
  let database := trial.state.database
  let marked : Database :=
    { database with
      resources := updateWhere
        (fun resource => resource.key == .database kind id)
        (fun resource => { resource with status := .starting })
        database.resources }
  let new := databaseDeployment operation kind id record.serverId record.name
  let inserted : Database :=
    { marked with
      deployments :=
        marked.deployments ++ [new.row marked.nextId marked.now]
      nextId := marked.nextId + 1 }
  have marks : database.execute .migrations
      (.updateStatus (.database kind id) .starting) = .ok (marked, ()) := by
    rfl
  have inserts : marked.execute .migrations (.createQueued new) =
      .ok (inserted, marked.nextId) := by
    simp [Database.execute, Database.createQueued, inserted, new,
      databaseDeployment, Database.uniqueIndex]
  have still : (inserted.resource? (.database kind id)).isSome = true := by
    obtain ⟨old, member, own⟩ := List.find?_isSome.mp found
    exact List.find?_isSome.mpr
      ⟨_, mem_updateWhere.mpr ⟨old, member, rfl⟩, by simp_all⟩
  intro outcome
  have runs : outcome =
      (finishDatabase config kind id operation marked.nextId).run.eval
        (Panel.trial config .migrations)
        ⟨{ trial.state with database := inserted },
          (trial.skip 2).inputs⟩ := by
    simp only [outcome]
    rw [insertDatabase, updateDatabaseStatus,
      eval_andThen_ok (trial_ok (healthy 0) marks),
      eval_andThen_ok (trial_ok (healthy 1) inserts)]
    rfl
  have finishes : Finishes marked.nextId
      { trial.state with database := inserted } outcome.1.state := by
    rw [runs]
    exact Finishes.of_finishDatabase rfl
  refine ⟨?_, fun bound => finishes.rows database.deployments _ rfl
    fun other member => (bound other member).ne⟩
  rw [runs]
  exact finishDatabase_succeeds (fun position => healthy _) still

theorem admission_clear
    (found : panel.database.resource? (.database kind id) = some record) :
    Admission config (.database kind id) record true (clear panel) ↔
      panel.database.admits config kind id = true := by
  refine ⟨admits_of_admission found, fun admits => ?_⟩
  obtain ⟨⟨welcome, idle⟩, room⟩ :
      (panel.database.welcome (.database kind id) = true ∧
        panel.database.busy id = false) ∧
      (panel.database.waiting : Int) < config.maxSize := by
    simpa [Database.admits] using admits
  have deployable : panel.database.deployable record.serverId = true := by
    simpa [Database.welcome, found] using welcome
  exact ⟨idle, room, fun _ => deployable, (faultless_iff _ _).mpr fun _ _ => rfl⟩

theorem queueDatabase_admitted
    (admits : panel.database.admits config kind id = true) :
    let outcome :=
      (queueDatabaseOperation config kind id operation).run.eval
        (Panel.trial config .migrations) (clear panel)
    outcome.2.isOk = true ∧
      (Ids panel.database →
        ∃ row, outcome.1.state.database.deployments =
            panel.database.deployments ++ [row] ∧
          row.target = (ResourceKey.database kind id).target ∧
          row.status = .queued) := by
  have known : ∃ record,
      panel.database.resource? (.database kind id) = some record := by
    cases found : panel.database.resource? (.database kind id) with
    | none => simp [Database.admits, Database.welcome, found] at admits
    | some record => exact ⟨record, rfl⟩
  obtain ⟨record, found⟩ := known
  obtain ⟨arrives, kept⟩ := (@comes_database config .migrations
    (clear panel) kind id operation record found).pass
      ((admission_clear found).mpr admits)
  let reached := admitted (clear panel) true record.serverId
  have succeeds := @insertDatabase_succeeds config reached kind id operation
    record
    (fun position => by rw [admitted_inputs]; rfl)
    (by
      rw [Database.resource?, kept.resources]
      exact Option.isSome_of_eq_some found)
  intro outcome
  rw [show outcome = _ from arrives]
  refine ⟨succeeds.1, fun ids => ?_⟩
  obtain ⟨row, rows, own⟩ := succeeds.2 (by
    rw [kept.deployments, kept.nextId]
    exact ids.bound)
  exact ⟨row, rows.trans (by rw [kept.deployments]; rfl), own⟩

theorem queueDatabase_refused
    (refused : panel.database.admits config kind id = false) :
    ((queueDatabaseOperation config kind id operation).run.eval
      (Panel.trial config .migrations) (clear panel)).2.isOk = false := by
  have refuses : Refuses config .migrations
      (queueDatabaseOperation config kind id operation) (clear panel) := by
    cases found : panel.database.resource? (.database kind id) with
    | none => exact database_missing found
    | some record =>
      refine (comes_database found).fail fun admission => ?_
      exact Bool.false_ne_true
        (refused.symm.trans ((admission_clear found).mp admission))
  obtain ⟨failed, error, fails, _⟩ := refuses
  rw [fails]
  rfl

theorem healthy_after {α : Type} (program : Action α)
    (healthy : ∀ position, (trial.inputs position).healthy = true)
    (position : Nat) :
    ((program.eval (Panel.trial config schema) trial).1.inputs
      position).healthy = true :=
  Fed.eval_inputs (fun input => input.healthy = true)
    (Panel.exec config schema) program healthy position

theorem accepts_stop (panel : Panel) :
    accepts config panel kind id .stop =
      (panel.database.resource? (.database kind id)).isSome := by
  let stopped := ((stopDatabase kind id).eval
    (Panel.trial config .migrations) (clear panel)).1
  have healthy : (stopped.inputs 0).healthy = true :=
    healthy_after _ (fun _ => rfl) 0
  have stops : (ExceptT.mk (stopDatabase kind id)).run.eval
      (Panel.trial config .migrations) (clear panel) =
      (stopped, .ok true) :=
    Prod.ext rfl (by simp [stopDatabase])
  have same : (stopped.state.database.resource?
      (.database kind id)).isSome =
      (panel.database.resource? (.database kind id)).isSome :=
    (stopCall_sameIds (.database kind id) (clear panel)).isSome _
  rw [← same, accepts, runDatabaseOperation, eval_andThen_ok stops]
  cases found : stopped.state.database.resource? (.database kind id) with
  | none =>
    obtain ⟨failed, error, fails, _⟩ :=
      @getById_refuses _ config .migrations stopped found
    rw [eval_andThen_error fails]
    rfl
  | some record =>
    rw [eval_andThen_ok ((checks_getById found).pass healthy).1]
    rfl

theorem accepts_eq_admits (panel : Panel) (other : operation ≠ .stop) :
    accepts config panel kind id operation =
      panel.database.admits config kind id := by
  have runs : runDatabaseOperation config kind id operation =
      queueDatabaseOperation config kind id operation := by
    cases operation with
    | stop => exact absurd rfl other
    | _ => rfl
  rw [accepts, runs]
  cases admits : panel.database.admits config kind id with
  | true => exact (queueDatabase_admitted admits).1
  | false => exact queueDatabase_refused admits

theorem cancelQueued_clear
    (healthy : ∀ position, (trial.inputs position).healthy = true) :
    ((ignore (sql (.update (cancelQueuedForDatabase id)))).eval
        (Panel.trial config .migrations)
        trial).1.state.database.deployments =
      dropQueued id trial.state.database.deployments := by
  have updates : trial.state.database.execute .migrations
      (.update (cancelQueuedForDatabase id)) =
      .ok ({ trial.state.database with
          deployments := dropQueued id trial.state.database.deployments },
        trial.state.database.deployments.countP
          (cancelQueued (.database id)).hits) := by
    simp [Database.execute, Database.updateDeployments,
      cancelQueuedForDatabase, cancelQueued, Schema.migrations, dropQueued]
  rw [ignore, eval_bind, trial_ok (healthy 0) updates]
  rfl

theorem cancelToken_clear {token : Nat}
    (healthy : ∀ position, (trial.inputs position).healthy = true)
    (held : trial.state.memory.tokens (.databaseId id) = some token) :
    ((cancelToken (.databaseId id)).eval (Panel.trial config schema)
      trial).1.state.memory.cancelled token = true := by
  have resolves : resolved.eval (Panel.trial config schema) trial =
      (trial.skip 1, .ok ()) := by
    cases input : trial.inputs 0 with
    | fault message =>
      exact absurd (healthy 0) (by simp [input, Input.healthy])
    | _ =>
      simp [resolved, outside, Panel.trial, Fed.feed, Fed.skip, Panel.exec,
        Input.answer, Input.unit, input]
  rw [cancelToken, eval_bind, resolves]
  simp [memory, Panel.trial, Fed.feed, Panel.exec, Memory.perform,
    Fed.skip, held]

/-- A stop call none of whose steps fails leaves no queued row of its
identifier, and cancels the token. -/
theorem stopDatabase_clear (panel : Panel) :
    let after := ((stopDatabase kind id).eval
      (Panel.trial config .migrations) (clear panel)).1.state
    after.database.deployments =
        dropQueued id panel.database.deployments ∧
      ∀ token, panel.memory.tokens (.databaseId id) = some token →
        after.memory.cancelled token = true := by
  let exec := Panel.trial config .migrations
  let key := ResourceKey.database kind id
  let read := (getById key).run.eval exec (clear panel)
  let statuses := stopStatuses (isBuilding key
    ((read.2.toOption.map Resource.status).getD .idle))
  let marked := ((ignore
    (updateDatabaseStatus kind id statuses.1)).eval exec read.1).1
  let emptied := ((cancelQueue (cancelQueuedDatabase id)).eval exec marked).1
  let signalled := ((cancelToken (.databaseId id)).eval exec emptied).1
  let cancelled := ((ignore
    (sql (.update (cancelQueuedForDatabase id)))).eval exec signalled).1
  let requested := ((ignore
    (sql (.update (requestCancelDatabaseDeployment id)))).eval exec
      cancelled).1
  intro after
  have ends : after = requested.state := by
    simp only [after, stopDatabase, eval_bind]
    rfl
  have healthy : ∀ position, (emptied.inputs position).healthy = true :=
    healthy_after _ (healthy_after _ (healthy_after _ fun _ => rfl))
  have reads : Stopped kind id panel read.1.state :=
    Stopped.of_only getById_only (clear panel)
  have marks : Stopped kind id read.1.state marked.state :=
    Stopped.of_only (only_ignore (only_perform (StopOp.mark _))) read.1
  have empties : Stopped kind id marked.state emptied.state :=
    Stopped.of_only cancelQueue_only marked
  have signals : Stopped kind id emptied.state signalled.state :=
    Stopped.of_only cancelToken_only emptied
  have cancels : Stopped kind id signalled.state cancelled.state :=
    Stopped.of_only (only_ignore (only_perform StopOp.cancelQueued)) signalled
  have requests : Stopped kind id cancelled.state requested.state :=
    Stopped.of_only (only_ignore (only_perform StopOp.requestCancel)) cancelled
  have before := (reads.trans marks).trans empties
  rw [ends]
  constructor
  · have dropped : cancelled.state.database.deployments =
        dropQueued id panel.database.deployments :=
      (cancelQueued_clear (healthy_after _ healthy)).trans
        (before.trans signals).dropped
    rcases requests.rows with same | again
    · exact same.trans dropped
    · rw [again, dropped, dropQueued_dropQueued]
  · intro token held
    rw [← before.tokens] at held
    exact (cancels.trans requests).token_stays (cancelToken_clear healthy held)

end

section

variable {before after : Database} {id other : Int}

theorem cancelQueued_hits {row : DeploymentRow} :
    (cancelQueued (.database id)).hits row = true ↔
      row.target.databaseId = some id ∧ row.status = .queued := by
  rw [DeploymentUpdate.hits_guarded rfl]
  simp [cancelQueued, Selector.selects]

theorem waiting_dropQueued
    (rows : after.deployments = dropQueued id before.deployments) :
    after.waiting + before.waitingFor id = before.waiting := by
  have counts := @countP_updateWhere DeploymentRow
    (cancelQueued (.database id)).hits (cancelQueued (.database id)).change
    (fun row => row.status == .queued)
    (fun row hit => by simpa using (cancelQueued_hits.mp hit).2)
    (fun _ _ => rfl) before.deployments
  have selected : before.waitingFor id =
      before.deployments.countP (cancelQueued (.database id)).hits := by
    rw [Database.waitingFor, Database.queued, List.filter_filter,
      List.countP_eq_length_filter]
    congr 2
    funext row
    rw [Bool.eq_iff_iff, cancelQueued_hits]
    simp [Selector.selects]
  rw [selected, Database.waiting, Database.waiting, Database.queued,
    Database.queued, rows, ← List.countP_eq_length_filter,
    ← List.countP_eq_length_filter]
  exact counts

theorem busy_dropQueued_same
    (rows : after.deployments = dropQueued id before.deployments) :
    after.busy id = before.runningFor id := by
  rw [Database.busy, Database.runningFor, Database.read, rows, dropQueued,
    updateWhere, List.any_map]
  congr 1
  funext row
  by_cases hit : (cancelQueued (.database id)).hits row = true
  · have queued := (cancelQueued_hits.mp hit).2
    simp only [Function.comp, hit, if_true]
    change (_ && DeploymentStatus.active .cancelled) = _
    simp [DeploymentStatus.active, queued]
  · rw [cancelQueued_hits] at hit
    simp only [Function.comp, cancelQueued_hits, hit, if_false]
    cases status : row.status <;>
      simp_all [Selector.selects, DeploymentStatus.active]

theorem busy_dropQueued_other (different : id ≠ other)
    (rows : after.deployments = dropQueued id before.deployments) :
    after.busy other = before.busy other := by
  rw [Database.busy, Database.busy, Database.read, Database.read, rows,
    dropQueued, updateWhere, List.any_map]
  congr 1
  funext row
  by_cases hit : (cancelQueued (.database id)).hits row = true
  · have selected := (cancelQueued_hits.mp hit).1
    have foreign : (id == other) = false := beq_false_of_ne different
    simp [Function.comp, hit, Selector.selects, selected, foreign]
  · simp [Function.comp, hit]

theorem busy_iff (database : Database) :
    database.busy id = true ↔
      database.runningFor id = true ∨ 0 < database.waitingFor id := by
  simp only [Database.busy, Database.read, Database.runningFor,
    Database.waitingFor, Database.queued, List.any_eq_true,
    List.length_pos_iff_exists_mem, List.mem_filter, Bool.and_eq_true,
    beq_iff_eq]
  constructor
  · rintro ⟨row, member, selected, active⟩
    cases status : row.status with
    | queued => exact Or.inr ⟨row, ⟨member, status⟩, selected⟩
    | running => exact Or.inl ⟨row, member, selected, status⟩
    | _ => simp [status, DeploymentStatus.active] at active
  · rintro (⟨row, member, selected, status⟩ |
      ⟨row, ⟨member, status⟩, selected⟩)
    · exact ⟨row, member, selected, by rw [status]; rfl⟩
    · exact ⟨row, member, selected, by rw [status]; rfl⟩

variable {row : DeploymentRow} {kind : DatabaseKind}

theorem admits_iff (config : Config) (database : Database) :
    database.admits config kind id = true ↔
      database.welcome (.database kind id) = true ∧
        database.busy id = false ∧
        (database.waiting : Int) < config.maxSize := by
  simp [Database.admits, and_assoc]

theorem waiting_queued (queued : row.status = .queued)
    (rows : after.deployments = before.deployments ++ [row]) :
    after.waiting = before.waiting + 1 := by
  simp [Database.waiting, Database.queued, rows, queued]

theorem busy_queued
    (target : row.target = (ResourceKey.database kind id).target)
    (queued : row.status = .queued)
    (rows : after.deployments = before.deployments ++ [row]) :
    after.busy other = (before.busy other || id == other) := by
  simp [Database.busy, Database.read, rows, Selector.selects, target,
    ResourceKey.target, queued, DeploymentStatus.active]

end

/-- The rows of a resource. -/
def rowsOf (database : Database) (key : ResourceKey) : List DeploymentRow :=
  database.deployments.filter fun row => row.target.names key

/-- The token in the map under a resource's key, and whether it is cancelled. -/
def tokenOf (memory : Memory) (key : ResourceKey) : Option (Nat × Bool) :=
  (memory.tokens key.idType).map fun token => (token, memory.cancelled token)

/-- Nothing that concerns a database has changed: neither its rows, its token
and its record, nor the answers of its `run_operation`. -/
structure Spares (config : Config) (kind : DatabaseKind) (id : Int)
    (before after : Panel) : Prop where
  rows : rowsOf after.database (.database kind id) =
    rowsOf before.database (.database kind id)
  token : tokenOf after.memory (.database kind id) =
    tokenOf before.memory (.database kind id)
  record : after.database.resource? (.database kind id) =
    before.database.resource? (.database kind id)
  answer : ∀ operation,
    accepts config after kind id operation =
      accepts config before kind id operation

/-- The panel after a call of a database that runs alone. -/
def afterCall (config : Config) (kind : DatabaseKind) (id : Int)
    (call : DatabaseCall) (panel : Panel) (inputs : Nat → Input) : Panel :=
  ((call.perform config kind id).eval (Panel.trial config .migrations)
    ⟨panel, inputs⟩).1.state

/-- Different keys of the map hold different tokens. -/
def DistinctTokens (memory : Memory) : Prop :=
  ∀ first second token, memory.tokens first = some token →
    memory.tokens second = some token → first = second

/-- The state in which calls of the database `kind`, `id` cannot reach the
database `other`, `otherId`.  Under a shared identifier a queued row or a live
token of the other one is in reach.  Its answer changes when both would be
accepted now and the identifier, or the last free place in the queue, goes to
the first; and when cancelling the first one's rows frees the identifier or a
place in the queue. -/
structure Apart (config : Config) (panel : Panel) (kind : DatabaseKind)
    (id : Int) (other : DatabaseKind) (otherId : Int) : Prop where
  queued : id = otherId → ∀ row ∈ panel.database.deployments,
    row.target.names (.database other otherId) = true → row.status ≠ .queued
  token : id = otherId → ∀ token,
    panel.memory.tokens (.databaseId id) = some token →
    panel.memory.cancelled token = true
  insertion : panel.database.admits config kind id = true →
    panel.database.admits config other otherId = true →
    id ≠ otherId ∧ (panel.database.waiting : Int) + 1 < config.maxSize
  release : panel.database.welcome (.database other otherId) = true →
    (panel.database.waiting : Int) - panel.database.waitingFor id <
      config.maxSize →
    (id = otherId → panel.database.runningFor id = true ∨
      panel.database.waitingFor id = 0) ∧
    (id ≠ otherId → panel.database.busy otherId = true ∨
      (panel.database.waiting : Int) < config.maxSize)

section

variable {config : Config} {before after : Panel} {kind other : DatabaseKind}
  {id otherId : Int}

theorem Target.databaseId_of_names {target : Target}
    (names : target.names (.database other otherId) = true) :
    target.databaseId = some otherId := by
  simp only [Target.names, Bool.and_eq_true, beq_iff_eq] at names
  exact names.1

theorem Effect.rows_spared (effect : Effect config kind id before after)
    (different : kind ≠ other)
    (apart : Apart config before kind id other otherId) :
    rowsOf after.database (.database other otherId) =
      rowsOf before.database (.database other otherId) := by
  have rows := effect.rows
  simp only [rowsOf]
  generalize after.database.deployments = left at rows
  cases rows with
  | same => rfl
  | cancelled =>
    refine filter_updateWhere (fun _ => rfl) ?_
    intro row member names
    by_contra hit
    obtain ⟨selected, queued⟩ :=
      cancelQueued_hits.mp ((Bool.not_eq_false _).mp hit)
    rw [Target.databaseId_of_names names] at selected
    exact apart.queued (Option.some.inj selected).symm row member names queued
  | queued admits target status =>
    simp [target, Ne.symm, different]

theorem Effect.token_spared (effect : Effect config kind id before after)
    (distinct : DistinctTokens before.memory)
    (apart : Apart config before kind id other otherId) :
    tokenOf after.memory (.database other otherId) =
      tokenOf before.memory (.database other otherId) := by
  simp only [tokenOf, effect.tokens, ResourceKey.idType]
  cases held : before.memory.tokens (.databaseId otherId) with
  | none => rfl
  | some token =>
    have kept : after.memory.cancelled token =
        before.memory.cancelled token := by
      rcases effect.cancelled with same | ⟨taken, holds, updated⟩
      · rw [same]
      · rw [updated]
        by_cases shared : token = taken
        · subst shared
          have sameId : id = otherId := by
            have sameKey := distinct _ _ token holds held
            cases sameKey
            rfl
          rw [Function.update_self, apart.token sameId token holds]
        · rw [Function.update_of_ne shared]
    simp [kept]

theorem Effect.foreign (effect : Effect config kind id before after)
    (different : kind ≠ other) :
    after.database.resource? (.database other otherId) =
      before.database.resource? (.database other otherId) := by
  apply effect.records
  intro same
  cases same
  exact different rfl

theorem Effect.welcome (effect : Effect config kind id before after)
    (different : kind ≠ other) :
    after.database.welcome (.database other otherId) =
      before.database.welcome (.database other otherId) := by
  simp only [Database.welcome, effect.foreign different, effect.deployable]

theorem Apart.release_iff (apart : Apart config before kind id other otherId)
    {left : Database}
    (rows : left.deployments = dropQueued id before.database.deployments)
    (welcome :
      before.database.welcome (.database other otherId) = true) :
    left.busy otherId = false ∧ (left.waiting : Int) < config.maxSize ↔
      before.database.busy otherId = false ∧
        (before.database.waiting : Int) < config.maxSize := by
  have waits := waiting_dropQueued rows
  have room (fits : (left.waiting : Int) < config.maxSize) :=
    apart.release welcome (by omega)
  by_cases shared : id = otherId
  · subst shared
    rw [busy_dropQueued_same rows, Bool.eq_false_iff,
      Bool.eq_false_iff (b := before.database.busy id), Ne, Ne, busy_iff]
    constructor
    · rintro ⟨idle, fits⟩
      have none := ((room fits).1 rfl).resolve_left idle
      exact ⟨by simp [idle, none], by omega⟩
    · rintro ⟨idle, fits⟩
      exact ⟨fun running => idle (Or.inl running), by omega⟩
  · rw [busy_dropQueued_other shared rows]
    constructor
    · rintro ⟨idle, fits⟩
      exact ⟨idle, ((room fits).2 shared).resolve_left
        (Bool.eq_false_iff.mp idle)⟩
    · rintro ⟨idle, fits⟩
      exact ⟨idle, by omega⟩

/-- The answer of the other database does not change. -/
theorem Effect.admits_spared (effect : Effect config kind id before after)
    (different : kind ≠ other)
    (apart : Apart config before kind id other otherId) :
    after.database.admits config other otherId =
      before.database.admits config other otherId := by
  have rows := effect.rows
  generalize same : after.database.deployments = left at rows
  rw [Bool.eq_iff_iff, admits_iff, admits_iff,
    @Effect.welcome _ _ _ _ _ _ otherId effect different]
  refine and_congr_right fun welcome => ?_
  cases rows with
  | same =>
    simp only [Database.busy, Database.read, Database.waiting,
      Database.queued, same]
  | cancelled => exact apart.release_iff same welcome
  | queued admits target status =>
    rw [busy_queued target status same, waiting_queued status same]
    constructor
    · rintro ⟨idle, fits⟩
      rw [Bool.or_eq_false_iff] at idle
      exact ⟨idle.1, by omega⟩
    · rintro ⟨idle, fits⟩
      obtain ⟨distinct, room⟩ := apart.insertion admits
        ((admits_iff _ _).mpr ⟨welcome, idle, fits⟩)
      exact ⟨by simp [idle, distinct], by omega⟩

theorem Effect.spares (effect : Effect config kind id before after)
    (different : kind ≠ other) (distinct : DistinctTokens before.memory)
    (apart : Apart config before kind id other otherId) :
    Spares config other otherId before after where
  rows := effect.rows_spared different apart
  token := effect.token_spared distinct apart
  record := effect.foreign different
  answer operation := by
    by_cases stop : operation = .stop
    · subst stop
      rw [accepts_stop, accepts_stop, effect.foreign different]
    · rw [accepts_eq_admits _ stop, accepts_eq_admits _ stop]
      exact effect.admits_spared different apart

theorem afterCall_cancel (panel : Panel) :
    let after := afterCall config kind id .cancel panel fun _ => .normal
    after.database.deployments = dropQueued id panel.database.deployments ∧
      ∀ token, panel.memory.tokens (.databaseId id) = some token →
        after.memory.cancelled token = true := by
  simp only [afterCall, DatabaseCall.perform, eval_bind, eval_pure]
  exact stopDatabase_clear panel

theorem afterCall_deploy (ids : Ids panel.database)
    (admits : panel.database.admits config kind id = true) :
    ∃ row,
      (afterCall config kind id (.run .deploy) panel
          fun _ => .normal).database.deployments =
        panel.database.deployments ++ [row] ∧
      row.target = (ResourceKey.database kind id).target ∧
      row.status = .queued := by
  simp only [afterCall, DatabaseCall.perform, eval_bind, eval_pure]
  exact (queueDatabase_admitted admits).2 ids

/-- Every call of the first database spares the second. -/
def Isolated (config : Config) (panel : Panel) (kind : DatabaseKind)
    (id : Int) (other : DatabaseKind) (otherId : Int) : Prop :=
  ∀ call inputs, Spares config other otherId panel
    (afterCall config kind id call panel inputs)

namespace Isolated

section

variable (isolated : Isolated config panel kind id other otherId)

include isolated

theorem admits (call : DatabaseCall) (inputs : Nat → Input) :
    (afterCall config kind id call panel inputs).database.admits config other
        otherId =
      panel.database.admits config other otherId := by
  have answer := (isolated call inputs).answer .deploy
  rwa [accepts_eq_admits _ (by simp), accepts_eq_admits _ (by simp)] at answer

theorem queued (shared : id = otherId) {row : DeploymentRow}
    (member : row ∈ panel.database.deployments)
    (names : row.target.names (.database other otherId) = true) :
    row.status ≠ .queued := by
  intro waits
  have left : row ∈ rowsOf (afterCall config kind id .cancel panel
      fun _ => .normal).database (.database other otherId) := by
    rw [(isolated _ _).rows]
    exact List.mem_filter.mpr ⟨member, names⟩
  have listed := (List.mem_filter.mp left).1
  rw [(afterCall_cancel panel).1] at listed
  obtain ⟨old, _, ⟨_, rfl⟩ | ⟨missed, rfl⟩⟩ := cases_of_mem_updateWhere listed
  · cases waits
  · exact Bool.eq_false_iff.mp missed (cancelQueued_hits.mpr
      ⟨shared ▸ Target.databaseId_of_names names, waits⟩)

theorem token (ids : Ids panel.database) (shared : id = otherId) {token : Nat}
    (held : panel.memory.tokens (.databaseId id) = some token) :
    panel.memory.cancelled token = true := by
  subst shared
  have same := (isolated .cancel fun _ => .normal).token
  have tokens := (@call_effect config kind id panel ids
    (fun _ => .normal) .cancel).tokens
  have cancelled := (@afterCall_cancel config kind id panel).2 token held
  simp only [tokenOf, ResourceKey.idType, afterCall, tokens, held,
    Option.map_some, Option.some.injEq, Prod.mk.injEq, true_and] at same
  exact same.symm.trans cancelled

theorem insertion (ids : Ids panel.database)
    (own : panel.database.admits config kind id = true)
    (foreign : panel.database.admits config other otherId = true) :
    id ≠ otherId ∧ (panel.database.waiting : Int) + 1 < config.maxSize := by
  obtain ⟨row, rows, target, status⟩ := afterCall_deploy ids own
  have still := (isolated.admits (.run .deploy) fun _ => .normal).trans foreign
  obtain ⟨_, idle, room⟩ := (admits_iff _ _).mp still
  rw [busy_queued target status rows, Bool.or_eq_false_iff] at idle
  rw [waiting_queued status rows] at room
  exact ⟨by simpa using idle.2, by omega⟩

end

theorem release (isolated : Isolated config panel kind id other otherId)
    (ids : Ids panel.database) (different : kind ≠ other)
    (welcome : panel.database.welcome (.database other otherId) = true)
    (fits : (panel.database.waiting : Int) - panel.database.waitingFor id <
      config.maxSize) :
    (id = otherId → panel.database.runningFor id = true ∨
      panel.database.waitingFor id = 0) ∧
    (id ≠ otherId → panel.database.busy otherId = true ∨
      (panel.database.waiting : Int) < config.maxSize) := by
  let after := afterCall config kind id .cancel panel fun _ => .normal
  have rows : after.database.deployments =
      dropQueued id panel.database.deployments :=
    (afterCall_cancel panel).1
  have waits := waiting_dropQueued rows
  have still : after.database.admits config other otherId =
      panel.database.admits config other otherId :=
    isolated.admits .cancel fun _ => .normal
  have welcomeAfter : after.database.welcome (.database other otherId) =
      true :=
    ((call_effect ids (fun _ => .normal) .cancel).welcome different).trans
      welcome
  have accepted (idle : after.database.busy otherId = false) :
      panel.database.busy otherId = false ∧
        (panel.database.waiting : Int) < config.maxSize := by
    have admits := (admits_iff config after.database).mpr
      ⟨welcomeAfter, idle, by omega⟩
    rw [still] at admits
    exact ((admits_iff _ _).mp admits).2
  constructor
  · rintro rfl
    by_cases running : panel.database.runningFor id = true
    · exact Or.inl running
    · refine Or.inr ?_
      have idle := (accepted (by
        rw [busy_dropQueued_same rows]
        simpa using running)).1
      by_contra waiting
      exact Bool.eq_false_iff.mp idle ((busy_iff _).mpr
        (Or.inr (Nat.pos_of_ne_zero waiting)))
  · intro apart
    by_cases busy : panel.database.busy otherId = true
    · exact Or.inl busy
    · refine Or.inr (accepted ?_).2
      rw [busy_dropQueued_other apart rows]
      simpa using busy

end Isolated

end

/-- Two databases of different kinds are isolated exactly in the states in which
`Apart` holds. -/
theorem database_kind_isolation_iff (config : Config) (panel : Panel)
    (kind other : DatabaseKind) (id otherId : Int) (different : kind ≠ other)
    (ids : Ids panel.database) (tokens : DistinctTokens panel.memory) :
    Isolated config panel kind id other otherId ↔
      Apart config panel kind id other otherId := by
  constructor
  · intro isolated
    exact ⟨fun shared row member names => isolated.queued shared member names,
      fun shared token held => isolated.token ids shared held,
      isolated.insertion ids, isolated.release ids different⟩
  · intro apart call inputs
    exact (call_effect ids inputs call).spares different tokens apart

/-- A panel with a PostgreSQL and a MySQL database, both on the local server. -/
def twoDatabases (postgres mysql : Int) (rows : List DeploymentRow) :
    Database where
  deployments := rows
  nextId := rows.length + 1
  resources :=
    [{ key := .database .postgres postgres, name := "orders",
       appName := "orders-1", status := .idle, serverId := none },
     { key := .database .mysql mysql, name := "blog", appName := "blog-1",
       status := .idle, serverId := none }]
  serverManagement := []
  now := 0

/-- Two databases with identifiers of their own and an empty queue. -/
theorem database_kind_isolation_fresh :
    Isolated twoWorkers ⟨twoDatabases 1 2 [], Memory.fresh⟩ .mysql 2
      .postgres 1 := by
  refine (database_kind_isolation_iff twoWorkers
    ⟨twoDatabases 1 2 [], Memory.fresh⟩ .mysql .postgres 2 1 (by decide)
    ⟨List.nodup_nil, by simp [twoDatabases]⟩
    (by intro first second token held; cases held)).mpr ?_
  refine ⟨fun shared => absurd shared (by decide),
    fun shared => absurd shared (by decide), ?_, ?_⟩
  · decide
  · intro _ _
    exact ⟨fun shared => absurd shared (by decide), fun _ => Or.inr (by decide)⟩

/-- A queued deployment of the PostgreSQL database with identifier 1. -/
def queuedPostgres : DeploymentRow :=
  (databaseDeployment .deploy .postgres 1 none "orders").row 1 0

/-- The process holds a live token under the shared identifier. -/
def liveToken : Memory :=
  { Memory.fresh with
    tokens := fun key => if key = .databaseId 1 then some 0 else none
    nextToken := 1 }

/-- Cancelling the MySQL database with identifier 1 cancels the queued row and
the token of the PostgreSQL database with identifier 1. -/
theorem shared_identifier_cancelled :
    let panel : Panel := ⟨twoDatabases 1 1 [queuedPostgres], liveToken⟩
    let after :=
      afterCall twoWorkers .mysql 1 .cancel panel fun _ => .normal
    (rowsOf panel.database (.database .postgres 1)).map
        DeploymentRow.status = [.queued] ∧
      (rowsOf after.database (.database .postgres 1)).map
        DeploymentRow.status = [.cancelled] ∧
      tokenOf panel.memory (.database .postgres 1) = some (0, false) ∧
      tokenOf after.memory (.database .postgres 1) = some (0, true) ∧
      ¬ Isolated twoWorkers panel .mysql 1 .postgres 1 := by
  intro panel after
  have before : (rowsOf panel.database (.database .postgres 1)).map
      DeploymentRow.status = [.queued] := by
    decide +kernel
  have left : (rowsOf after.database (.database .postgres 1)).map
      DeploymentRow.status = [.cancelled] := by
    decide +kernel
  refine ⟨before, left, by decide +kernel, by decide +kernel, ?_⟩
  intro isolated
  have same := (isolated .cancel fun _ => .normal).rows
  rw [same, before] at left
  cases left

end OpenOxide.Deployment
