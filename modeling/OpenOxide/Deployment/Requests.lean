import OpenOxide.Deployment.Ownership
import OpenOxide.Deployment.Checks
import OpenOxide.Deployment.Stops

/-!
# One request, alone

`run_operation` of the application and compose services, from its checks to its
answer.  The insertion of the row and the statements after it are not one
transaction, and under the migrations' constraints the write of the
transitional status fails after the row is there.
-/

namespace OpenOxide.Deployment

open Concurrency Program

/-- Every operation but a stop is refused on a server in maintenance mode. -/
def ServiceOperation.checksServer : ServiceOperation → Bool
  | .stop => false
  | _ => true

/-- A request for an operation on an application or a compose project. -/
inductive Request where
  | application (id : Int) (operation : ApplicationOperation)
  | compose (id : Int) (operation : ServiceOperation)

namespace Request

def key : Request → ResourceKey
  | application id _ => .application id
  | compose id _ => .compose id

/-- `run_operation` of the two services. -/
def run (config : Config) : Request → SqlAction OperationResult
  | application id operation => runApplicationOperation config id operation
  | compose id operation => runComposeOperation config id operation

def checksServer : Request → Bool
  | application _ _ => true
  | compose _ operation => operation.checksServer

/-- The row that the request inserts. -/
def new (record : Resource) : Request → NewDeployment
  | application id operation => applicationDeployment operation id record
  | compose id operation => composeDeployment operation id record

/-- The statements after the insertion of the row `deploymentId`. -/
def finish (config : Config) (record : Resource) (deploymentId : Int) :
    Request → SqlAction OperationResult
  | application id operation => do
      let _ ← updateStatus (.application id) .starting
      let _ ← sql (.update
        (updateLogPath deploymentId (config.deploymentLogFile deploymentId)))
      resolve
      ExceptT.lift notify
      pure ⟨record, some deploymentId, operation.operation⟩
  | compose id operation => do
      let _ ← sql (.update
        (updateLogPath deploymentId (config.deploymentLogFile deploymentId)))
      resolve
      ExceptT.lift notify
      let written ← updateStatus (.compose id) (composeStatus operation)
      pure ⟨written, some deploymentId, operation.operation⟩

/-- The request from the insertion on. -/
def insert (config : Config) (record : Resource) (request : Request) :
    SqlAction OperationResult := do
  let deploymentId : Int ← sql (.createQueued (request.new record))
  request.finish config record deploymentId

/-- A stop of a compose project that is queued or running. -/
def stopsBusy (database : Database) : Request → Bool
  | application _ _ => false
  | compose id operation =>
    operation == .stop && database.read (.hasActive (.compose id))

end Request

variable {id : Int} {record : Resource} {operation : ServiceOperation}
  {request : Request} {before after : Database}

section

variable {config : Config} {schema : Schema} {trial : Trial}

theorem comes_application {operation : ApplicationOperation}
    (found : trial.state.database.resource? (.application id) =
      some record) :
    Comes config schema (runApplicationOperation config id operation) trial
      (Admission config (.application id) record true trial)
      (admitted trial true record.serverId)
      ((Request.application id operation).insert config record) :=
  ((checks_read _).next fun _ => (checks_refuseIf _ _).next fun _ =>
    checks_resolve.next fun _ => checks_ensureCapacity.next fun _ =>
    (checks_getById (by exact found)).next fun _ =>
    checks_resolve.next fun _ =>
    (checks_assertDeployable _).next fun _ => comes_here).congr
      admission_of_checks

theorem checks_assertComposeDeployable (operation : ServiceOperation)
    (compose : Resource) :
    Checks config schema (assertComposeDeployable operation compose) trial
      (operation.checksServer = true → (trial.inputs 0).healthy = true ∧
        Faultless (trial.skip 1) (assertSteps compose.serverId) ∧
          trial.state.database.deployable compose.serverId = true)
      (if operation.checksServer then
        asserted (trial.skip 1) compose.serverId
      else trial) () := by
  cases operation with
  | stop => exact comes_here.congr (by simp [ServiceOperation.checksServer])
  | _ =>
    refine (checks_resolve.next fun _ =>
      checks_assertDeployable compose.serverId).congr ?_
    simp [ServiceOperation.checksServer, Fed.skip]

theorem comes_compose
    (found : trial.state.database.resource? (.compose id) = some record)
    (idle : trial.state.database.read (.hasActive (.compose id)) = false) :
    Comes config schema (runComposeOperation config id operation) trial
      (Admission config (.compose id) record operation.checksServer trial)
      (admitted trial operation.checksServer record.serverId)
      ((Request.compose id operation).insert config record) := by
  have queue : Comes config schema (queueComposeOperation config id operation)
      (trial.skip 1) _ _ ((Request.compose id operation).insert config record) :=
    checks_resolve.next fun _ => checks_ensureCapacity.next fun _ =>
      (checks_getById (by exact found)).next fun _ =>
      (checks_assertComposeDeployable operation record).next fun _ =>
      comes_here
  have leads : Comes config schema (runComposeOperation config id operation)
      trial _ _ ((Request.compose id operation).insert config record) :=
    Leads.stepEq Untouched.trans (checks_read _)
      (if_neg (Bool.eq_false_iff.mp idle)) fun _ => queue
  cases checksServer : operation.checksServer with
  | false =>
    rw [checksServer] at leads
    refine leads.congr ?_
    rw [admission_iff]
    simp only [Faultless, admissionSteps, Fed.skip, Bool.false_eq_true,
      false_implies, if_false]
    tauto
  | true =>
    rw [checksServer] at leads
    refine leads.congr ?_
    rw [← admission_of_checks]
    simp only [true_implies]
    constructor
    · intro checks
      obtain ⟨first, second, capacity, fourth, server, _⟩ := checks
      exact ⟨first, idle, second, capacity, fourth, server.1, server.2,
        trivial⟩
    · intro checks
      obtain ⟨first, _, second, capacity, fourth, fifth, server, _⟩ := checks
      exact ⟨first, second, capacity, fourth, ⟨fifth, server⟩, trivial⟩

theorem busy_refused
    (busy : trial.state.database.read (.hasActive (.compose id)) = true)
    (free : (Request.compose id operation).stopsBusy trial.state.database =
      false) :
    Refuses config schema (runComposeOperation config id operation)
      trial := by
  refine (checks_read (.hasActive (.compose id))).refuses fun _ => ?_
  rw [if_pos busy]
  cases operation with
  | stop => exact absurd (busy.symm.trans free) Bool.true_eq_false.mp
  | _ => exact ⟨_, _, rfl, Untouched.refl _⟩

theorem comes_request
    (found : trial.state.database.resource? request.key = some record)
    (free : request.stopsBusy trial.state.database = false) :
    Comes config schema (request.run config) trial
      (Admission config request.key record request.checksServer trial)
      (admitted trial request.checksServer record.serverId)
      (request.insert config record) := by
  cases request with
  | application id operation => exact comes_application found
  | compose id operation =>
    cases active :
      trial.state.database.read (.hasActive (.compose id)) with
    | false => exact comes_compose found active
    | true =>
      refine ⟨fun admission => ?_, fun _ => ?_⟩
      · exact absurd (admission.idle.symm.trans active) Bool.false_ne_true
      · exact busy_refused active free

theorem request_missing
    (missing : trial.state.database.resource? request.key = none)
    (free : request.stopsBusy trial.state.database = false) :
    Refuses config schema (request.run config) trial := by
  cases request with
  | application id operation =>
    exact (checks_read _).refuses fun _ => (checks_refuseIf _ _).refuses
      fun _ => checks_resolve.refuses fun _ => checks_ensureCapacity.refuses
      fun _ => (getById_refuses (by exact missing)).andThen
  | compose id operation =>
    cases active :
      trial.state.database.read (.hasActive (.compose id)) with
    | false =>
      refine (checks_read (.hasActive (.compose id))).refuses fun _ => ?_
      rw [if_neg (Bool.eq_false_iff.mp active)]
      exact checks_resolve.refuses fun _ =>
        checks_ensureCapacity.refuses fun _ =>
        (getById_refuses (by exact missing)).andThen
    | true => exact busy_refused active free

def Database.enqueued (database : Database) (new : NewDeployment) :
    Database :=
  { database with
    deployments :=
      database.deployments ++ [new.row database.nextId database.now]
    nextId := database.nextId + 1 }

theorem createQueued_idle {database : Database} {new : NewDeployment}
    (idle : database.read (.hasActive new.key.selector) = false) :
    database.createQueued new =
      .ok (database.enqueued new, database.nextId) := by
  have free : Database.uniqueIndex new.key = none ∨
      (database.deployments.any fun row =>
        row.status.active && row.target.names new.key) = false := by
    simp only [Database.read, List.any_eq_false] at idle
    cases addressed : new.key with
    | database kind id => exact Or.inl rfl
    | application | compose =>
      refine Or.inr (List.any_eq_false.mpr fun row member => ?_)
      simpa [addressed, ResourceKey.selector, Selector.selects,
        Target.names, and_comm] using idle row member
  rcases free with unindexed | vacant
  · simp [Database.createQueued, unindexed, Database.enqueued]
  · simp [Database.createQueued, vacant, Database.enqueued]

/-- Every queued row is still there, and queued. -/
def Standing (before after : Database) : Prop :=
  ∀ row ∈ before.deployments, row.status = .queued →
    ∃ left ∈ after.deployments, left.id = row.id ∧ left.status = .queued

theorem Standing.of_eq (same : after.deployments = before.deployments) :
    Standing before after := by
  intro row member queued
  exact ⟨row, by rwa [same], rfl, queued⟩

theorem Standing.trans {first second third : Database}
    (before : Standing first second) (after : Standing second third) :
    Standing first third := by
  intro row member queued
  obtain ⟨middle, middleMember, middleId, middleQueued⟩ :=
    before row member queued
  obtain ⟨left, leftMember, leftId, leftQueued⟩ :=
    after middle middleMember middleQueued
  exact ⟨left, leftMember, leftId.trans middleId, leftQueued⟩

/-- A part of a request that lets the queued rows stand. -/
abbrev Leaves (config : Config) (schema : Schema) {α : Type}
    (action : SqlAction α) :=
  Leads (Panel.trial config schema)
    (fun before after => Standing before.state.database after.state.database)
    action

theorem leaves_updateLogPath (deploymentId : Int) (logPath : String) :
    ∃ reached affected,
      reached.state.database.resources = trial.state.database.resources ∧
      Leaves config schema
        (sql (.update (updateLogPath deploymentId logPath))) trial
        ((trial.inputs 0).healthy = true) reached (pure affected) := by
  let update := updateLogPath deploymentId logPath
  let next : Database :=
    { trial.state.database with
      deployments := Relational.updateWhere update.hits update.change
        trial.state.database.deployments }
  have succeeds : trial.state.database.execute schema (.update update) =
      .ok (next, trial.state.database.deployments.countP update.hits) := by
    simp [Database.execute, Database.updateDeployments, next, update,
      updateLogPath]
  refine ⟨⟨{ trial.state with database := next }, (trial.skip 1).inputs⟩,
    trial.state.database.deployments.countP update.hits, rfl, ?_, ?_⟩
  · intro healthy
    refine ⟨trial_ok healthy succeeds, ?_⟩
    intro row member queued
    refine ⟨_, Relational.mem_updateWhere.mpr ⟨row, member, rfl⟩, ?_, ?_⟩
    · split <;> rfl
    · split <;> exact queued
  · intro faulty
    obtain ⟨message, fault⟩ := Input.exists_fault faulty
    exact ⟨_, _, trial_fault fault, Standing.of_eq rfl⟩

theorem leaves_notify :
    Leaves config schema (ExceptT.lift notify) trial True
      ⟨{ trial.state with
          memory := { trial.state.memory with permit := true } },
        (trial.skip 1).inputs⟩ (pure ()) where
  pass _ := by
    exact ⟨rfl, Standing.of_eq rfl⟩
  fail fails := absurd trivial fails

theorem updateStatus_rejected {key : ResourceKey} {status : ResourceStatus}
    (found : (trial.state.database.resource? key).isSome = true)
    (rejected : schema.resourceStatus key status = false) :
    Fails (Panel.trial config schema)
      (fun before after =>
        Standing before.state.database after.state.database)
      (updateStatus key status) trial := by
  have present : (trial.state.database.resources.any fun resource =>
      resource.key == key) = true := by
    simpa [Database.resource?] using found
  have fails : trial.state.database.execute schema
      (.updateStatus key status) =
      .error (.constraint (.resourceStatusCheck key)) := by
    simp [Database.execute, Database.updateStatus, rejected, present]
    rfl
  obtain ⟨reported, outcome⟩ := trial_error fails
  exact ⟨_, reported, eval_andThen_error outcome, Standing.of_eq rfl⟩

/-- The migrations accept no transitional status of an application or a compose
project, so no request gets past its own status write. -/
theorem finish_fails {deploymentId : Int}
    (found : (trial.state.database.resource? request.key).isSome = true) :
    Fails (Panel.trial config .migrations)
      (fun before after =>
        Standing before.state.database after.state.database)
      (request.finish config record deploymentId) trial := by
  cases request with
  | application id operation =>
    exact (updateStatus_rejected found rfl).andThen
  | compose id operation =>
    obtain ⟨logged, affected, resources, logs⟩ :=
      @leaves_updateLogPath config .migrations trial deploymentId
        (config.deploymentLogFile deploymentId)
    have kept : (logged.state.database.resource? (.compose id)).isSome =
        true := by
      rw [Database.resource?, resources]
      exact found
    have rejected : Schema.migrations.resourceStatus (.compose id)
        (composeStatus operation) = false := by
      cases operation <;> rfl
    have resolves := (@checks_resolve config .migrations logged).weaken
      fun kept => Standing.of_eq kept.deployments
    exact logs.fails Standing.trans fun _ =>
      resolves.fails Standing.trans fun _ =>
      leaves_notify.fails Standing.trans fun _ =>
      (updateStatus_rejected (by exact kept) rejected).andThen

/-- The same deployments and the same resources, whatever their statuses. -/
structure SameIds (before after : Database) : Prop where
  ids : after.deployments.map DeploymentRow.id =
    before.deployments.map DeploymentRow.id
  keys : after.resources.map Resource.key = before.resources.map Resource.key

theorem SameIds.trans {first second third : Database}
    (before : SameIds first second) (after : SameIds second third) :
    SameIds first third :=
  ⟨after.ids.trans before.ids, after.keys.trans before.keys⟩

theorem attempt_sameIds (schema : Schema) (database : Database) {query : Query}
    (inserts : ∀ database, query.inserted database = []) (input : Input) :
    SameIds database (database.attempt schema query input).1 := by
  refine Database.attempt_induction (SameIds database) ⟨rfl, rfl⟩ ?_
  intro next answer succeeded
  constructor
  · rw [(Database.execute_ok succeeded).deployments, inserts]
    simp [Function.comp_def]
  · rw [(Database.execute_ok succeeded).resources]
    simp [Function.comp_def]

theorem stopCall_sameIds (key : ResourceKey) (trial : Trial) :
    SameIds trial.state.database
      ((stopCall key).eval (Panel.trial config schema)
        trial).1.state.database := by
  refine eval_only
    (fun before after : Trial =>
      SameIds before.state.database after.state.database)
    (fun _ => ⟨rfl, rfl⟩) SameIds.trans ?_ (stopCall_only key) trial
  intro op trial stops
  cases stops with
  | record | mark | queuedIds | cancelQueued | requestCancel =>
    exact attempt_sameIds schema _ (fun _ => rfl) _
  | resolve => exact ⟨rfl, rfl⟩
  | cancelToken => exact ⟨rfl, rfl⟩
  | spawn own => exact ⟨rfl, rfl⟩

theorem SameIds.isSome (same : SameIds before after) (key : ResourceKey) :
    (after.resource? key).isSome = (before.resource? key).isSome := by
  have listed (database : Database) :
      (database.resource? key).isSome =
        decide (key ∈ database.resources.map Resource.key) := by
    rw [Bool.eq_iff_iff]
    simp [Database.resource?]
  rw [listed, listed, same.keys]

theorem Untouched.sameIds {before after : Panel}
    (untouched : Untouched before after) :
    SameIds before.database after.database :=
  ⟨by rw [untouched.deployments], by rw [untouched.resources]⟩

/-- A part of a request that adds no row. -/
abbrev Keeps (config : Config) (schema : Schema) {α : Type}
    (action : SqlAction α) :=
  Leads (Panel.trial config schema)
    (fun before after => SameIds before.state.database after.state.database)
    action

theorem stopCompose_fails
    (refuses : Refuses config schema (getById (.compose id)) trial) :
    Fails (Panel.trial config schema)
      (fun before after =>
        SameIds before.state.database after.state.database)
      (ExceptT.mk (stopCompose id)) trial := by
  obtain ⟨failed, error, outcome, kept⟩ := refuses
  refine ⟨failed, error, ?_, kept.sameIds⟩
  simp only [stopCompose, ExceptT.run_mk, eval_bind]
  rw [outcome]
  simp

theorem keeps_stopCompose
    (found : trial.state.database.resource? (.compose id) = some record) :
    Keeps config schema (ExceptT.mk (stopCompose id)) trial
      ((trial.inputs 0).healthy = true)
      ((stopCompose id).eval (Panel.trial config schema) trial).1
      (pure true) where
  pass healthy := by
    refine ⟨Prod.ext rfl ?_, stopCall_sameIds (.compose id) trial⟩
    have reads := (@checks_getById _ config schema trial _ found).pass healthy
    simp only [stopCompose, ExceptT.run_mk, eval_bind]
    rw [reads.1]
    simp
  fail faulty := stopCompose_fails ((checks_getById found).fail faulty)

/-- The queued rows that were not there before. -/
def newQueued (before after : Database) : List DeploymentRow :=
  after.deployments.filter fun row =>
    row.status == .queued &&
      !(before.deployments.map DeploymentRow.id).contains row.id

/-- Either one new queued row and a wake-up of the dispatcher, or an error and
no new queued row. -/
def AllOrNothing (before after : Panel) :
    Except SqlError OperationResult → Prop
  | .ok _ =>
    (newQueued before.database after.database).length = 1 ∧
      after.memory.permit = true
  | .error _ => newQueued before.database after.database = []

instance (before after : Panel) :
    (result : Except SqlError OperationResult) →
      Decidable (AllOrNothing before after result)
  | .ok _ => inferInstanceAs (Decidable (_ ∧ _))
  | .error _ => inferInstanceAs (Decidable (_ = _))

theorem newQueued_of_ids (same : after.deployments.map DeploymentRow.id =
      before.deployments.map DeploymentRow.id) :
    newQueued before after = [] := by
  apply List.filter_eq_nil_iff.mpr
  intro row member
  have known : row.id ∈ before.deployments.map DeploymentRow.id := by
    rw [← same]
    exact List.mem_map_of_mem member
  simpa using fun _ => known

namespace Request

/-- The request gets as far as its insertion, and the insertion succeeds. -/
def Inserts (config : Config) (trial : Trial) (request : Request) : Prop :=
  ∃ record, trial.state.database.resource? request.key = some record ∧
    Admission config request.key record request.checksServer trial ∧
    (trial.inputs
      (admissionSteps request.checksServer record.serverId)).healthy = true

/-- The input of the read that ends a stop of a busy compose project. -/
def lastRead (config : Config) (schema : Schema) (trial : Trial)
    (request : Request) : Input :=
  ((stopCall request.key).eval (Panel.trial config schema)
    (trial.skip 1)).1.inputs 0

/-- The request stops a busy compose project, and neither its two first reads
nor its last one fails. -/
def Cancels (config : Config) (trial : Trial) (request : Request) : Prop :=
  request.stopsBusy trial.state.database = true ∧
    (trial.state.database.resource? request.key).isSome = true ∧
    (trial.inputs 0).healthy = true ∧ (trial.inputs 1).healthy = true ∧
    (request.lastRead config .migrations trial).healthy = true

end Request

theorem not_busy_of_idle
    (idle : trial.state.database.read (.hasActive request.key.selector) =
      false) :
    request.stopsBusy trial.state.database = false := by
  cases request with
  | application id operation => rfl
  | compose id operation =>
    have inactive :
        trial.state.database.read (.hasActive (.compose id)) = false :=
      idle
    simp [Request.stopsBusy, inactive]

theorem refuses_request (free : request.stopsBusy trial.state.database = false)
    (stays : ¬ request.Inserts config trial) :
    Refuses config schema (request.run config) trial := by
  cases found : trial.state.database.resource? request.key with
  | none => exact request_missing found free
  | some record =>
    have comes := @comes_request _ _ config schema trial found free
    by_cases admission :
        Admission config request.key record request.checksServer trial
    · obtain ⟨arrives, kept⟩ := comes.pass admission
      have faulty : ¬ ((admitted trial request.checksServer
          record.serverId).inputs 0).healthy = true := by
        rw [admitted_inputs, Nat.zero_add]
        exact fun healthy => stays ⟨record, found, admission, healthy⟩
      obtain ⟨message, fault⟩ := Input.exists_fault faulty
      refine ⟨_, _, arrives.trans (eval_andThen_error
        (trial_fault fault)), kept⟩
    · exact comes.fail admission

/-- A request that inserts its row fails afterwards, and its row stays. -/
theorem request_inserts (inserts : request.Inserts config trial) :
    ∃ failed error,
      (request.run config).run.eval (Panel.trial config .migrations) trial =
          (failed, .error error) ∧
        ∃ row ∈ failed.state.database.deployments,
          row.id = trial.state.database.nextId ∧ row.status = .queued := by
  obtain ⟨record, found, admission, healthy⟩ := inserts
  obtain ⟨arrives, kept⟩ := (@comes_request _ _ config .migrations trial
    found (not_busy_of_idle admission.idle)).pass admission
  let reached := admitted trial request.checksServer record.serverId
  have idle : reached.state.database.read
      (.hasActive (request.new record).key.selector) = false := by
    have same : (request.new record).key = request.key := by
      cases request <;> rfl
    have rows := kept.deployments
    simp only [Database.read] at rows ⊢
    rw [same, rows]
    exact admission.idle
  have inserted : (sql (.createQueued (request.new record))).run.eval
      (Panel.trial config .migrations) reached = _ :=
    trial_ok (by rwa [admitted_inputs, Nat.zero_add])
      (createQueued_idle idle)
  obtain ⟨failed, error, fails, standing⟩ := @finish_fails record
    request config ⟨{ reached.state with
        database := reached.state.database.enqueued (request.new record) },
      (reached.skip 1).inputs⟩ reached.state.database.nextId
    (by
      change (reached.state.database.resources.find? _).isSome = true
      rw [kept.resources]
      exact Option.isSome_of_eq_some found)
  refine ⟨failed, error,
    (arrives.trans (eval_andThen_ok inserted)).trans fails, ?_⟩
  obtain ⟨row, member, same, queued⟩ := standing
    ((request.new record).row reached.state.database.nextId
      reached.state.database.now)
    (List.mem_append_right _ List.mem_cons_self) rfl
  exact ⟨row, member, same.trans kept.nextId, queued⟩

theorem Request.compose_of_stopsBusy {database : Database}
    (busy : request.stopsBusy database = true) :
    ∃ id, request = .compose id .stop ∧
      database.read (.hasActive (.compose id)) = true := by
  cases request with
  | application id operation => cases busy
  | compose id operation => simpa [Request.stopsBusy] using busy

theorem request_cancels_missing
    (busy : request.stopsBusy trial.state.database = true)
    (missing : trial.state.database.resource? request.key = none) :
    Fails (Panel.trial config .migrations)
      (fun before after =>
        SameIds before.state.database after.state.database)
      (request.run config) trial := by
  obtain ⟨id, rfl, active⟩ := Request.compose_of_stopsBusy busy
  have asks := (@checks_read config .migrations trial
    (.hasActive (.compose id))).weaken Untouched.sameIds
  refine asks.fails SameIds.trans fun _ => ?_
  rw [if_pos active]
  exact (stopCompose_fails (getById_refuses (by exact missing))).andThen

/-- A stop of a busy compose project adds no row, and succeeds when none of its
reads of the record fails. -/
theorem request_cancels
    (busy : request.stopsBusy trial.state.database = true)
    (found : trial.state.database.resource? request.key = some record) :
    ∃ reached result, Keeps config .migrations (request.run config) trial
      (request.Cancels config trial) reached (pure result) := by
  obtain ⟨id, rfl, active⟩ := Request.compose_of_stopsBusy busy
  let stopped := ((stopCompose id).eval
    (Panel.trial config .migrations) (trial.skip 1)).1
  have still : (stopped.state.database.resource?
      (.compose id)).isSome = true :=
    ((stopCall_sameIds (.compose id) (trial.skip 1)).isSome _).trans
      (Option.isSome_of_eq_some found)
  obtain ⟨last, foundLast⟩ := Option.isSome_iff_exists.mp still
  have asks := (@checks_read config .migrations trial
    (.hasActive (.compose id))).weaken Untouched.sameIds
  have reads := (@checks_getById _ config .migrations stopped _
    foundLast).weaken Untouched.sameIds
  have cancels : Keeps config .migrations (runBusyCompose id .stop)
      (trial.skip 1) _ _ (pure ⟨last, none, .stop⟩) :=
    Leads.step SameIds.trans (keeps_stopCompose (by exact found))
      fun _ => Leads.step SameIds.trans reads fun _ =>
        Leads.here fun _ => ⟨rfl, rfl⟩
  have whole : Keeps config .migrations
      (runComposeOperation config id .stop) trial _ _
      (pure ⟨last, none, .stop⟩) :=
    Leads.stepEq SameIds.trans asks (if_pos active) fun _ => cancels
  refine ⟨_, _, whole.congr ?_⟩
  exact ⟨fun ⟨first, second, third, _⟩ =>
      ⟨busy, Option.isSome_of_eq_some found, first, second, third⟩,
    fun ⟨_, _, first, second, third⟩ =>
      ⟨first, second, third, trivial⟩⟩

/-- The outcome of a request under the constraints of the migrations. -/
def Request.outcome (config : Config) (trial : Trial) (request : Request) :
    Trial × Except SqlError OperationResult :=
  (request.run config).run.eval (Panel.trial config .migrations) trial

theorem not_whole_of_inserts (ids : Ids trial.state.database)
    (inserts : request.Inserts config trial) :
    ¬ AllOrNothing trial.state (request.outcome config trial).1.state
      (request.outcome config trial).2 := by
  obtain ⟨failed, error, fails, row, member, fresh, queued⟩ :=
    request_inserts inserts
  rw [Request.outcome, fails]
  intro empty
  have unknown :
      row.id ∉ trial.state.database.deployments.map DeploymentRow.id := by
    intro known
    obtain ⟨old, oldMember, same⟩ := List.mem_map.mp known
    have bound := ids.bound old oldMember
    rw [same, fresh] at bound
    exact lt_irrefl _ bound
  exact List.filter_eq_nil_iff.mp empty row member
    (by simpa [queued] using unknown)

theorem not_whole_of_cancels (cancels : request.Cancels config trial) :
    ¬ AllOrNothing trial.state (request.outcome config trial).1.state
      (request.outcome config trial).2 := by
  obtain ⟨record, found⟩ := Option.isSome_iff_exists.mp cancels.2.1
  obtain ⟨reached, result, keeps⟩ :=
    @request_cancels _ _ config _ cancels.1 found
  obtain ⟨succeeds, same⟩ := keeps.pass cancels
  rw [Request.outcome, succeeds]
  intro whole
  have one : (newQueued trial.state.database
      reached.state.database).length = 1 := whole.1
  rw [newQueued_of_ids same.ids] at one
  cases one

theorem request_fails (stays : ¬ request.Inserts config trial)
    (waits : ¬ request.Cancels config trial) :
    Fails (Panel.trial config .migrations)
      (fun before after =>
        SameIds before.state.database after.state.database)
      (request.run config) trial := by
  cases busy : request.stopsBusy trial.state.database with
  | false => exact (refuses_request busy stays).weaken Untouched.sameIds
  | true =>
    cases found : trial.state.database.resource? request.key with
    | none => exact request_cancels_missing busy found
    | some record =>
      obtain ⟨reached, result, keeps⟩ := request_cancels busy found
      exact keeps.fail waits

end

/-- Under the constraints of the migrations a request for an operation is all or
nothing exactly when it is refused before its row is inserted and is no stop
that cancels a busy compose project: a row that is inserted stays queued behind
an error, and such a stop succeeds without a row. -/
theorem operation_request_all_or_nothing_iff (config : Config)
    (request : Request) (panel : Panel) (inputs : Nat → Input)
    (ids : Ids panel.database) :
    AllOrNothing panel (request.outcome config ⟨panel, inputs⟩).1.state
        (request.outcome config ⟨panel, inputs⟩).2 ↔
      ¬ request.Inserts config ⟨panel, inputs⟩ ∧
        ¬ request.Cancels config ⟨panel, inputs⟩ := by
  constructor
  · intro whole
    exact ⟨fun inserts => not_whole_of_inserts ids inserts whole,
      fun cancels => not_whole_of_cancels cancels whole⟩
  · intro ⟨stays, waits⟩
    obtain ⟨failed, error, outcome, same⟩ := request_fails stays waits
    rw [Request.outcome, outcome]
    exact newQueued_of_ids same.ids

/-- A request whose first statement fails leaves no row behind. -/
theorem operation_request_all_or_nothing_refused :
    let panel : Panel := ⟨single (.application 1) none, Memory.fresh⟩
    let trial : Trial := ⟨panel, fun _ => .fault "database is locked"⟩
    let outcome :=
      (Request.application 1 .deploy).outcome twoWorkers trial
    Ids panel.database ∧
      AllOrNothing panel outcome.1.state outcome.2 := by
  refine ⟨ids_single _ _, ?_⟩
  apply (operation_request_all_or_nothing_iff twoWorkers
    (.application 1 .deploy) ⟨single (.application 1) none, Memory.fresh⟩
    (fun _ => .fault "database is locked") (ids_single _ _)).mpr
  constructor
  · intro ⟨record, _, _, healthy⟩
    cases healthy
  · intro cancels
    cases cancels.1

/-- A first deployment of an application on a fresh panel, with no step failing:
the migrations reject the status `STARTING`, the caller gets an error, and the
row is left in the queue without a wake-up. -/
theorem rejected_status_leaves_row :
    let panel : Panel := ⟨single (.application 1) none, Memory.fresh⟩
    let outcome := (Request.application 1 .deploy).outcome twoWorkers
      ⟨panel, fun _ => .normal⟩
    outcome.2 =
        .error (.constraint (.resourceStatusCheck (.application 1))) ∧
      (newQueued panel.database outcome.1.state.database).length = 1 ∧
      outcome.1.state.memory.permit = false ∧
      ¬ AllOrNothing panel outcome.1.state outcome.2 := by
  decide +kernel

end OpenOxide.Deployment
