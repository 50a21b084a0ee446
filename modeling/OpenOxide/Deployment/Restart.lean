import OpenOxide.Deployment.Checks
import OpenOxide.Deployment.Ownership

/-!
# Recovery after a restart

`recover_stale_deployments` marks the deployments that the restart interrupted and
then writes `ERROR` to the resources that it takes for interrupted: those with one
of four statuses, and those whose newest deployment carries the mark.  The mark
stays on a deployment, so a later restart finds it again; and two of the statuses
that announce work in progress are not among the four.
-/

namespace OpenOxide.Deployment

open Concurrency Program Relational

/-- The operations that need another machine. -/
def Op.reachesServer : Op → Bool
  | .outside (.remoteExecutor _) | .outside (.killPidFile _ _) => true
  | _ => false

/-- The panel while its own database and its components answer. -/
def Panel.steady (config : Config) (schema : Schema) (op : Op) (input : Input) :
    Panel → Panel × op.Answer :=
  Panel.exec config schema op (if op.reachesServer then input else .normal)

/-- The database after `recover_stale_deployments` has run. -/
def recover (config : Config) (schema : Schema) (trial : Trial) : Database :=
  (recoverStaleDeployments.eval
    (Fed.feed (Panel.steady config schema)) trial).1.state.database

/-- The restart has interrupted the deployment. -/
def DeploymentRow.interrupted (row : DeploymentRow) : Bool :=
  row.status == .queued || row.status == .running || row.status == .cancelling

/-- The statuses that `is_building` counts, and `STOPPING`. -/
def ResourceStatus.inTransition : ResourceStatus → Bool
  | .queued | .building | .deploying | .starting | .cancelling | .stopping =>
    true
  | _ => false

variable (database : Database)

variable (resource : Resource)

/-- The restart has interrupted the resource: its status announces work in
progress, or one of its deployments was waiting or running. -/
def Database.interrupted : Bool :=
  resource.status.inTransition ||
    database.deployments.any fun row =>
      row.target.pointsTo resource.key && row.interrupted

/-- The newest deployment of the resource. -/
def Database.newest (key : ResourceKey) : Option DeploymentRow :=
  Database.latest (database.deployments.filter fun row =>
    row.target.pointsTo key)

/-- What a restart owes to the panel: nothing is left in progress, only
interrupted resources get another status, and a second recovery finds nothing to
do. -/
structure RecoversExactly (before after again : Database) : Prop where
  deployments : ∀ row ∈ after.deployments, row.interrupted = false
  resources : ∀ resource ∈ after.resources,
    resource.status.inTransition = false
  frame : List.Forall₂ (fun old new : Resource => new.key = old.key ∧
    (new.status ≠ old.status → before.interrupted old = true))
    before.resources after.resources
  again : again.deployments = after.deployments ∧
    again.resources = after.resources

/-- What recovery does to a resource. -/
def Database.settle : Resource :=
  if resource.status.transitional || database.recovered resource.key then
    { resource with status := .error }
  else resource

section Statements

variable {config : Config} {schema : Schema} {trial : Trial}

theorem settle_key : (database.settle resource).key = resource.key := by
  unfold Database.settle
  split <;> rfl

/-- The tables are visited one after the other. -/
def Database.visit (families : List ResourceFamily) : Database :=
  families.foldl (fun database family => database.recoverStaleStatuses family)
    database

theorem visit_deployments (families : List ResourceFamily)
    (database : Database) :
    (database.visit families).deployments = database.deployments := by
  induction families generalizing database with
  | nil => rfl
  | cons family families induction =>
    exact induction (database.recoverStaleStatuses family)

theorem settle_congr {database other : Database}
    (same : other.deployments = database.deployments) (resource : Resource) :
    other.settle resource = database.settle resource := by
  unfold Database.settle Database.recovered
  rw [same]

theorem settle_settle :
    database.settle (database.settle resource) = database.settle resource := by
  unfold Database.settle
  by_cases hit :
      (resource.status.transitional || database.recovered resource.key) = true
  · rw [if_pos hit]
    split <;> rfl
  · rw [if_neg hit, if_neg hit]

theorem recoverStaleStatuses_resources (family : ResourceFamily)
    (database : Database) :
    (database.recoverStaleStatuses family).resources =
      database.resources.map fun resource =>
        if resource.key.family = family then database.settle resource
        else resource := by
  apply List.map_congr_left
  intro resource _
  by_cases same : resource.key.family = family
  · simp only [same, beq_self_eq_true, Bool.true_and, if_true]
    rfl
  · simp only [same, beq_false_of_ne same, Bool.false_and, Bool.false_eq_true,
      if_false]

theorem visit_resources (families : List ResourceFamily)
    (database : Database) :
    (database.visit families).resources = database.resources.map
      fun resource => if resource.key.family ∈ families then
        database.settle resource else resource := by
  induction families generalizing database with
  | nil => simp [Database.visit]
  | cons family families induction =>
    change ((database.recoverStaleStatuses family).visit families).resources =
      _
    rw [induction, recoverStaleStatuses_resources, List.map_map]
    apply List.map_congr_left
    intro resource _
    have later : ∀ resource,
        (database.recoverStaleStatuses family).settle resource =
          database.settle resource :=
      settle_congr rfl
    simp only [Function.comp_apply, later, List.mem_cons]
    by_cases own : resource.key.family = family
    · simp only [own, if_true, true_or, settle_key]
      split
      · exact settle_settle database resource
      · rfl
    · simp only [own, if_false, false_or]

def allFamilies : List ResourceFamily :=
  [.applications, .composeProjects] ++ databaseKinds.map .databases

theorem family_mem (key : ResourceKey) : key.family ∈ allFamilies := by
  cases key with
  | database kind id =>
    cases kind <;> simp [allFamilies, databaseKinds, ResourceKey.family]
  | _ => simp [allFamilies, ResourceKey.family]

/-- The first statement of the recovery. -/
def Database.mark : Database :=
  { database with
    deployments := updateWhere markInterruptedAsRecovered.hits
      markInterruptedAsRecovered.change database.deployments }

theorem mark_hits (row : DeploymentRow) :
    markInterruptedAsRecovered.hits row = row.interrupted := by
  obtain ⟨_, _, _, status, _⟩ := row
  cases status <;> rfl

theorem eval_ignore_sql {query : Query} {next : Database}
    {answer : query.Answer}
    (succeeds : trial.state.database.execute schema query =
      .ok (next, answer)) :
    ((ignore (sql query)).eval (Fed.feed (Panel.steady config schema))
      trial).1.state.database = next := by
  change (Panel.exec config schema (.sql query) .normal trial.state).1.database =
    next
  simp only [Panel.exec, Database.attempt, succeeds]

theorem eval_recoverStaleDatabaseStatuses (kinds : List DatabaseKind) :
    ((recoverStaleDatabaseStatuses kinds).run.eval
      (Fed.feed (Panel.steady config schema)) trial).1.state.database =
      trial.state.database.visit (kinds.map .databases) := by
  induction kinds generalizing trial with
  | nil => rfl
  | cons kind kinds induction =>
    rw [recoverStaleDatabaseStatuses]
    have passes : (sql (.recoverStaleStatuses (.databases kind))).run.eval
        (Fed.feed (Panel.steady config schema)) trial =
          (⟨{ trial.state with database :=
              trial.state.database.recoverStaleStatuses (.databases kind) },
            (trial.skip 1).inputs⟩, .ok ()) := rfl
    rw [eval_andThen_ok passes, induction]
    rfl

def DeploymentRow.withoutPid (row : DeploymentRow) : DeploymentRow :=
  { row with pid := none }

def Database.withoutPids : Database :=
  { database with
    deployments := database.deployments.map DeploymentRow.withoutPid }

/-- What the clean-up of remote jobs may change. -/
structure ButPids (before after : Database) : Prop where
  rows : after.deployments.map DeploymentRow.withoutPid =
    before.deployments.map DeploymentRow.withoutPid
  resources : after.resources = before.resources

theorem ButPids.refl : ButPids database database :=
  ⟨rfl, rfl⟩

theorem ButPids.trans {first second third : Database}
    (before : ButPids first second) (after : ButPids second third) :
    ButPids first third :=
  ⟨after.rows.trans before.rows, after.resources.trans before.resources⟩

theorem butPids_steady {op : Op} (cleans : cleansUp op) :
    ButPids trial.state.database
      (Fed.feed (Panel.steady config schema) op trial).1.state.database := by
  cases op with
  | sql query =>
    cases query with
    | read what => exact .refl _
    | update statement =>
      obtain ⟨id, rfl⟩ := cleans
      refine ⟨?_, rfl⟩
      have kept : ∀ row : DeploymentRow,
          ((setPidNull id).change row).withoutPid = row.withoutPid :=
        fun _ => rfl
      exact map_updateWhere kept _
    | _ => cases cleans
  | outside request => exact .refl _
  | _ => cases cleans

/-- The database after the clean-up of remote jobs. -/
def cleanedUp (config : Config) (schema : Schema) (trial : Trial) : Database :=
  (cleanupStaleRemoteJobs.eval
    (Fed.feed (Panel.steady config schema)) trial).1.state.database

theorem butPids_cleanup :
    ButPids trial.state.database (cleanedUp config schema trial) := by
  apply @eval_only _ _ _ _ (Fed.feed (Panel.steady config schema)) cleansUp
    (fun before after : Trial =>
      ButPids before.state.database after.state.database)
  · exact fun _ => .refl _
  · exact fun before after => before.trans after
  · exact fun _ _ cleans => butPids_steady cleans
  · exact only_cleanupStaleRemoteJobs

theorem execute_mark (accepts : schema.deploymentStatus .error = true)
    (database : Database) :
    database.execute schema (.update markInterruptedAsRecovered) =
      .ok (database.mark,
        database.deployments.countP markInterruptedAsRecovered.hits) := by
  have passes : ¬ ((markInterruptedAsRecovered.status.all
      schema.deploymentStatus) = false ∧
      0 < database.deployments.countP markInterruptedAsRecovered.hits) := by
    intro refused
    have accepted : markInterruptedAsRecovered.status.all
        schema.deploymentStatus = schema.deploymentStatus .error := rfl
    rw [accepted, accepts] at refused
    cases refused.1
  exact if_neg passes

theorem eval_then {first second : Action Unit} {middle last : Database}
    (done : (first.eval (Fed.feed (Panel.steady config schema))
      trial).1.state.database = middle)
    (rest : ∀ reached : Trial, reached.state.database = middle →
      (second.eval (Fed.feed (Panel.steady config schema))
        reached).1.state.database = last) :
    ((do first; second : Action Unit).eval
      (Fed.feed (Panel.steady config schema)) trial).1.state.database =
        last := by
  rw [eval_bind]
  exact rest _ done

theorem eval_statements (accepts : schema.deploymentStatus .error = true) :
    ((do
      ignore (sql (.update markInterruptedAsRecovered))
      ignore (sql (.recoverStaleStatuses .applications))
      ignore (sql (.recoverStaleStatuses .composeProjects))
      ignore (recoverStaleDatabaseStatuses databaseKinds) : Action Unit).eval
        (Fed.feed (Panel.steady config schema)) trial).1.state.database =
      trial.state.database.mark.visit allFamilies := by
  refine eval_then (eval_ignore_sql (execute_mark accepts _))
    fun first marked => ?_
  refine eval_then (eval_ignore_sql rfl) fun second applications => ?_
  refine eval_then (eval_ignore_sql rfl) fun third projects => ?_
  rw [ignore, eval_bind]
  change ((recoverStaleDatabaseStatuses databaseKinds).run.eval _
    third).1.state.database = _
  rw [eval_recoverStaleDatabaseStatuses, projects, applications, marked]
  rfl

theorem recover_eq (accepts : schema.deploymentStatus .error = true) :
    (recover config schema trial).deployments =
        (cleanedUp config schema trial).mark.deployments ∧
      (recover config schema trial).resources =
        (cleanedUp config schema trial).resources.map
          (cleanedUp config schema trial).mark.settle := by
  rw [recover, recoverStaleDeployments, eval_bind, cleanedUp]
  generalize (cleanupStaleRemoteJobs.eval (Fed.feed (Panel.steady config schema))
    trial).1 = cleaned
  rw [eval_bind]
  have found : resolved.eval (Fed.feed (Panel.steady config schema)) cleaned =
      (cleaned.skip 1, .ok ()) := rfl
  rw [found]
  have statements := @eval_statements config schema (cleaned.skip 1) accepts
  rw [statements, visit_deployments, visit_resources]
  refine ⟨rfl, List.map_congr_left ?_⟩
  intro resource _
  rw [if_pos (family_mem resource.key)]
  rfl

/-- Without a running deployment there is nothing to clean up. -/
theorem cleanedUp_idle
    (idle : ∀ row ∈ trial.state.database.deployments,
      row.interrupted = false) :
    cleanedUp config schema trial = trial.state.database := by
  have none : trial.state.database.deployments.filter
      (fun row => row.status == .running) = [] := by
    rw [List.filter_eq_nil_iff]
    intro row member running
    have waiting := idle row member
    rw [DeploymentRow.interrupted, running] at waiting
    simp at waiting
  have jobs : (sql (.read .runningRemoteJobs)).run.eval
      (Fed.feed (Panel.steady config schema)) (trial.skip 1) =
        ((trial.skip 1).skip 1, .ok []) := by
    change (_, Except.ok ((trial.state.database.deployments.filter
      (fun row => row.status == .running)).filterMap Database.remoteJob)) = _
    rw [none]
    rfl
  rw [cleanedUp, cleanupStaleRemoteJobs, eval_bind]
  have found : resolved.eval (Fed.feed (Panel.steady config schema)) trial =
      (trial.skip 1, .ok ()) := rfl
  rw [found]
  rw [eval_bind, jobs]
  rfl

end Statements

variable {before : Database}

theorem latest_map {change : DeploymentRow → DeploymentRow}
    (kept : ∀ row, (change row).id = row.id) (rows : List DeploymentRow) :
    Database.latest (rows.map change) = (Database.latest rows).map change := by
  unfold Database.latest
  rw [List.foldl_map]
  refine @List.foldl_hom _ _ _ (Option.map change) _ _ rows none ?_
  intro best row
  cases best with
  | none => rfl
  | some other =>
    simp only [Option.map_some, kept]
    split <;> rfl

theorem newest_map {before after : Database}
    {change : DeploymentRow → DeploymentRow}
    (rows : after.deployments = before.deployments.map change)
    (claim : ∀ row, (change row).claim = row.claim) (key : ResourceKey) :
    after.newest key = (before.newest key).map change := by
  unfold Database.newest
  rw [← latest_map fun row => congrArg DeploymentClaim.id (claim row), rows,
    List.filter_map]
  have same : (fun row : DeploymentRow => row.target.pointsTo key) ∘ change =
      fun row => row.target.pointsTo key := by
    funext row
    have target := congrArg DeploymentClaim.target (claim row)
    change (change row).target.pointsTo key = _
    rw [show (change row).target = row.target from target]
  rw [same]

/-- The deployment will carry the mark of a restart. -/
def DeploymentRow.marked (row : DeploymentRow) : Bool :=
  row.interrupted || row.state == .recoveredAfterRestart

theorem mark_recovered (key : ResourceKey) : database.mark.recovered key =
      (database.newest key).any DeploymentRow.marked := by
  change (database.mark.newest key).any
    (fun row => row.state == .recoveredAfterRestart) = _
  have newest := @newest_map database database.mark _ rfl
    (fun row => by split <;> rfl) key
  rw [newest]
  cases database.newest key with
  | none => rfl
  | some row =>
    simp only [Option.map_some, Option.any_some, mark_hits]
    unfold DeploymentRow.marked
    cases interrupted : row.interrupted with
    | true => rfl
    | false => rfl

theorem newest_butPids {after : Database} (same : ButPids before after)
    (key : ResourceKey) :
    (after.newest key).map DeploymentRow.withoutPid =
      (before.newest key).map DeploymentRow.withoutPid := by
  have stripped : ∀ database : Database,
      (database.newest key).map DeploymentRow.withoutPid =
        database.withoutPids.newest key :=
    fun database => (@newest_map database database.withoutPids
      DeploymentRow.withoutPid rfl (fun _ => rfl) key).symm
  rw [stripped, stripped]
  unfold Database.newest Database.withoutPids
  rw [same.rows]

theorem marked_butPids {after : Database} (same : ButPids before after)
    (key : ResourceKey) :
    (after.newest key).any DeploymentRow.marked =
      (before.newest key).any DeploymentRow.marked := by
  have through : ∀ found : Option DeploymentRow,
      found.any DeploymentRow.marked =
        (found.map DeploymentRow.withoutPid).any DeploymentRow.marked := by
    intro found
    cases found with
    | none => rfl
    | some row => rfl
  rw [through, newest_butPids same, ← through]

/-- What recovery makes of a resource. -/
def Database.outcome (before : Database) (resource : Resource) : Resource :=
  if resource.status.transitional ||
      (before.newest resource.key).any DeploymentRow.marked then
    { resource with status := .error }
  else resource

section Result

variable {config : Config} {schema : Schema} {trial : Trial}

theorem recover_resources (accepts : schema.deploymentStatus .error = true) :
    (recover config schema trial).resources =
      trial.state.database.resources.map trial.state.database.outcome := by
  have cleans := @butPids_cleanup config schema trial
  rw [(recover_eq accepts).2, cleans.resources]
  apply List.map_congr_left
  intro resource _
  unfold Database.settle Database.outcome
  rw [mark_recovered, marked_butPids cleans]

theorem recover_deployments (accepts : schema.deploymentStatus .error = true)
    {row : DeploymentRow}
    (member : row ∈ (recover config schema trial).deployments) :
    row.interrupted = false := by
  rw [(recover_eq accepts).1] at member
  obtain ⟨old, _, rfl⟩ := mem_updateWhere.mp member
  rw [mark_hits]
  cases interrupted : old.interrupted with
  | true => rfl
  | false => exact interrupted

/-- A second recovery changes nothing. -/
theorem recover_again (accepts : schema.deploymentStatus .error = true)
    (memory : Memory) (inputs : Nat → Input) :
    (recover config schema
        ⟨⟨recover config schema trial, memory⟩, inputs⟩).deployments =
      (recover config schema trial).deployments ∧
    (recover config schema
        ⟨⟨recover config schema trial, memory⟩, inputs⟩).resources =
      (recover config schema trial).resources := by
  have idle : ∀ row ∈ (recover config schema trial).deployments,
      row.interrupted = false :=
    fun row member => recover_deployments accepts member
  have rows : (recover config schema trial).mark.deployments =
      (recover config schema trial).deployments :=
    updateWhere_of_missed fun row member => by rw [mark_hits, idle row member]
  have twice := @recover_eq config schema
    ⟨⟨recover config schema trial, memory⟩, inputs⟩ accepts
  have cleaned := @cleanedUp_idle config schema
    ⟨⟨recover config schema trial, memory⟩, inputs⟩ idle
  rw [cleaned] at twice
  refine ⟨twice.1.trans rows, twice.2.trans ?_⟩
  have once := @recover_eq config schema trial accepts
  rw [once.2, List.map_map]
  apply List.map_congr_left
  intro resource _
  have settled := settle_congr (rows.trans once.1)
    ((cleanedUp config schema trial).mark.settle resource)
  exact settled.trans (settle_settle _ resource)

/-- What a resource has to meet for its recovery to be exact: a build in
progress belongs to an interrupted deployment, and a mark of an earlier restart
stands only with the status `ERROR`. -/
structure Recoverable (database : Database) (resource : Resource) : Prop where
  building : resource.status = .building ∨ resource.status = .deploying →
    (database.newest resource.key).any DeploymentRow.marked = true
  earlier : (database.newest resource.key).any
      (fun row => row.state == .recoveredAfterRestart) = true →
    database.interrupted resource = false → resource.status = .error

theorem latest_mem {rows : List DeploymentRow} {row : DeploymentRow}
    (found : Database.latest rows = some row) : row ∈ rows := by
  induction rows using List.reverseRecOn with
  | nil => cases found
  | append_singleton rows last induction =>
    unfold Database.latest at found induction
    rw [List.foldl_append, List.foldl_cons, List.foldl_nil] at found
    split at found
    · cases found
      simp
    · rename_i other best
      split at found
      · cases found
        simp
      · cases found
        exact List.mem_append_left _ (induction best)

theorem outcome_settled_iff {resource : Resource} :
    (before.outcome resource).status.inTransition = false ↔
      (resource.status = .building ∨ resource.status = .deploying →
        (before.newest resource.key).any DeploymentRow.marked = true) := by
  unfold Database.outcome
  cases marked : (before.newest resource.key).any DeploymentRow.marked with
  | true =>
    rw [Bool.or_true, if_pos rfl]
    exact ⟨fun _ _ => rfl, fun _ => rfl⟩
  | false =>
    obtain ⟨key, name, appName, status, serverId, composeType⟩ := resource
    cases status <;> simp [ResourceStatus.transitional,
      ResourceStatus.inTransition]

/-- Recovery changes the status of the resource for a reason. -/
theorem outcome_framed_iff {resource : Resource} :
    ((before.outcome resource).status ≠ resource.status →
        before.interrupted resource = true) ↔
      ((before.newest resource.key).any
          (fun row => row.state == .recoveredAfterRestart) = true →
        before.interrupted resource = false → resource.status = .error) := by
  have newest : (before.newest resource.key).any DeploymentRow.interrupted =
      true → before.interrupted resource = true := by
    intro interrupted
    obtain ⟨row, found, waiting⟩ := Option.any_eq_true _ _ |>.mp interrupted
    have member := List.mem_filter.mp (latest_mem found)
    unfold Database.interrupted
    rw [Bool.or_eq_true, List.any_eq_true]
    exact .inr ⟨row, member.1, by simp [member.2, waiting]⟩
  have transitional : resource.status.transitional = true →
      before.interrupted resource = true := by
    intro busy
    unfold Database.interrupted
    rw [Bool.or_eq_true]
    left
    revert busy
    cases resource.status <;> simp [ResourceStatus.transitional,
      ResourceStatus.inTransition]
  cases interrupted : before.interrupted resource with
  | true => simp
  | false =>
    rw [interrupted] at newest transitional
    have settled : resource.status.transitional = false :=
      Bool.eq_false_iff.mpr fun busy => Bool.noConfusion (transitional busy)
    have marks : (before.newest resource.key).any DeploymentRow.marked =
        (before.newest resource.key).any
          (fun row => row.state == .recoveredAfterRestart) := by
      cases found : before.newest resource.key with
      | none => rfl
      | some row =>
        rw [found] at newest
        have idle : row.interrupted = false :=
          Bool.eq_false_iff.mpr fun waiting =>
            Bool.noConfusion (newest waiting)
        change row.marked = _
        rw [DeploymentRow.marked, idle]
        rfl
    unfold Database.outcome
    rw [settled, marks, Bool.false_or]
    cases (before.newest resource.key).any
        (fun row => row.state == .recoveredAfterRestart) with
    | true => simp [eq_comm]
    | false => simp

/-- Recovery is exact on the databases whose resources are all recoverable, and
on no others. -/
theorem recovery_exact_iff (config : Config) (schema : Schema)
    (accepts : schema.deploymentStatus .error = true) (trial : Trial)
    (memory : Memory) (inputs : Nat → Input) :
    RecoversExactly trial.state.database (recover config schema trial)
        (recover config schema
          ⟨⟨recover config schema trial, memory⟩, inputs⟩) ↔
      ∀ resource ∈ trial.state.database.resources,
        Recoverable trial.state.database resource := by
  have resources := @recover_resources config schema trial accepts
  have framed : List.Forall₂ (fun old new : Resource => new.key = old.key ∧
      (new.status ≠ old.status →
        trial.state.database.interrupted old = true))
      trial.state.database.resources
      (recover config schema trial).resources ↔
      ∀ resource ∈ trial.state.database.resources,
        (trial.state.database.outcome resource).status ≠ resource.status →
          trial.state.database.interrupted resource = true := by
    rw [resources, List.forall₂_map_right_iff, List.forall₂_same]
    refine forall₂_congr fun resource _ => and_iff_right ?_
    unfold Database.outcome
    split <;> rfl
  constructor
  · intro exact resource member
    refine ⟨?_, ?_⟩
    · apply outcome_settled_iff.mp
      apply exact.resources
      rw [resources]
      exact List.mem_map_of_mem member
    · exact outcome_framed_iff.mp (framed.mp exact.frame resource member)
  · intro recoverable
    refine ⟨fun row member => recover_deployments accepts member, ?_, ?_,
      recover_again accepts memory inputs⟩
    · intro resource member
      rw [resources] at member
      obtain ⟨old, present, rfl⟩ := List.mem_map.mp member
      exact outcome_settled_iff.mpr (recoverable old present).building
    · exact framed.mpr fun resource member =>
        outcome_framed_iff.mpr (recoverable resource member).earlier

end Result

/-- A deployment of an application with a status and a state. -/
def pastDeployment (status : DeploymentStatus) (state : DeploymentState) :
    DeploymentRow where
  id := 1
  title := "Deploy"
  description := none
  status := status
  state := state
  logPath := "/var/lib/openoxide/logs/deployments/1.log"
  pid := none
  errorMessage := none
  operation := some .deploy
  target := ResourceKey.target (.application 1)
  serverId := none
  createdAt := 0

/-- An application with one deployment, and a database without any. -/
def restarted (row : DeploymentRow) (application database : ResourceStatus) :
    Trial where
  state :=
    ⟨{ deployments := [row]
       nextId := 2
       resources :=
         [⟨.application 1, "shop", "shop-1", application, none, .stack⟩,
           ⟨.database .postgres 1, "main", "main-1", database, none, .stack⟩]
       serverManagement := []
       now := 0 }, Memory.fresh⟩
  inputs _ := .normal

/-- A restart in the middle of a deployment. -/
theorem recovery_exact_running :
    Schema.migrations.deploymentStatus .error = true ∧
      (recover twoWorkers .migrations (restarted
        (pastDeployment .running .building) .running .idle)).resources.map
          Resource.status = [.error, .idle] ∧
      RecoversExactly
        (restarted (pastDeployment .running .building) .running
          .idle).state.database
        (recover twoWorkers .migrations (restarted
          (pastDeployment .running .building) .running .idle))
        (recover twoWorkers .migrations ⟨⟨recover twoWorkers .migrations
          (restarted (pastDeployment .running .building) .running .idle),
            Memory.fresh⟩, fun _ => .normal⟩) := by
  refine ⟨rfl, by decide +kernel, ?_⟩
  refine (recovery_exact_iff twoWorkers .migrations rfl _ _ _).mpr ?_
  intro resource member
  rcases List.mem_cons.mp member with rfl | later
  · exact ⟨by decide, by decide⟩
  · obtain rfl := List.mem_singleton.mp later
    exact ⟨by decide, by decide⟩

/-- The mark of an earlier restart takes a running application down once more,
and a database that was being built is left as it is. -/
theorem recovery_after_earlier_restart :
    (restarted (pastDeployment .error .recoveredAfterRestart) .running
        .building).state.database.resources.map
          (restarted (pastDeployment .error .recoveredAfterRestart) .running
            .building).state.database.interrupted = [false, true] ∧
      (recover twoWorkers .migrations (restarted
        (pastDeployment .error .recoveredAfterRestart) .running
          .building)).resources.map Resource.status = [.error, .building] := by
  decide +kernel

end OpenOxide.Deployment
