import OpenOxide.Concurrency.Sequential
import OpenOxide.Deployment.Services

/-!
# The checks before a row is queued

A request for an operation checks, step by step, whether it may be queued.
Each check of the services is a `Checks` fact: under which inputs and on which
databases it passes, and that it leaves the queue alone.  `Admission` is the
conjunction of their conditions for a whole request.
-/

namespace OpenOxide.Deployment

open Concurrency Program

def Input.healthy : Input → Bool
  | .fault _ => false
  | _ => true

theorem Input.exists_fault {input : Input} (faulty : ¬ input.healthy = true) :
    ∃ message, input = .fault message := by
  cases input with
  | fault message => exact ⟨message, rfl⟩
  | _ => exact absurd rfl faulty

/-- A panel with the inputs of the operations to come. -/
abbrev Trial := Fed Panel Input

def Panel.trial (config : Config) (schema : Schema) :
    (op : Op) → Trial → Trial × op.Answer :=
  Fed.feed (Panel.exec config schema)

/-- A server takes deployments unless it is in maintenance mode. -/
def Database.deployable (database : Database) : Option Int → Bool
  | none => true
  | some serverId =>
    (database.read (.serverManagement serverId)).all fun row =>
      row.maintenanceMode == 0

/-- What the checks before an insertion leave alone.  They may create the
default row of a server's management table. -/
structure Untouched (before after : Panel) : Prop where
  memory : after.memory = before.memory
  deployments : after.database.deployments = before.database.deployments
  nextId : after.database.nextId = before.database.nextId
  resources : after.database.resources = before.database.resources
  deployable : ∀ server,
    after.database.deployable server = before.database.deployable server

theorem Untouched.refl (panel : Panel) : Untouched panel panel :=
  ⟨rfl, rfl, rfl, rfl, fun _ => rfl⟩

theorem Untouched.trans {first second third : Panel}
    (before : Untouched first second) (after : Untouched second third) :
    Untouched first third where
  memory := after.memory.trans before.memory
  deployments := after.deployments.trans before.deployments
  nextId := after.nextId.trans before.nextId
  resources := after.resources.trans before.resources
  deployable server :=
    (after.deployable server).trans (before.deployable server)

/-- A request that comes to a later point of itself. -/
abbrev Comes (config : Config) (schema : Schema) {α : Type}
    (action : SqlAction α) :=
  Leads (Panel.trial config schema)
    (fun before after => Untouched before.state after.state) action

/-- A check of the panel. -/
abbrev Checks (config : Config) (schema : Schema) {α : Type}
    (action : SqlAction α) (trial : Trial) (condition : Prop)
    (reached : Trial) (value : α) : Prop :=
  Comes config schema action trial condition reached (pure value)

/-- A request that is refused. -/
abbrev Refuses (config : Config) (schema : Schema) {α : Type}
    (action : SqlAction α) :=
  Fails (Panel.trial config schema)
    (fun before after => Untouched before.state after.state) action

variable {α β : Type} {query : Query} {key : ResourceKey}

section

variable {config : Config} {schema : Schema} {trial : Trial}
  {action : SqlAction α}

theorem comes_here : Comes config schema action trial True trial action :=
  Leads.here fun _ => Untouched.refl _

theorem Checks.next {next : α → SqlAction β}
    {condition later : Prop} {reached last : Trial} {value : α}
    {rest : SqlAction β}
    (check : Checks config schema action trial condition reached value)
    (after : condition →
      Comes config schema (next value) reached later last rest) :
    Comes config schema (action >>= next) trial (condition ∧ later) last
      rest :=
  Leads.step Untouched.trans check after

theorem Checks.refuses {next : α → SqlAction β}
    {condition : Prop} {reached : Trial} {value : α}
    (check : Checks config schema action trial condition reached value)
    (after : condition → Refuses config schema (next value) reached) :
    Refuses config schema (action >>= next) trial :=
  Leads.fails Untouched.trans check after

theorem trial_fault {message : String}
    (fault : trial.inputs 0 = .fault message) :
    (sql query).run.eval (Panel.trial config schema) trial =
      (trial.skip 1, .error (.protocol message)) := by
  change Panel.trial config schema (.sql query) trial = _
  simp [Panel.trial, Fed.feed, Fed.skip, Panel.exec, Database.attempt, fault]

theorem trial_ok {next : Database} {answer : query.Answer}
    (healthy : (trial.inputs 0).healthy = true)
    (succeeds : trial.state.database.execute schema query =
      .ok (next, answer)) :
    (sql query).run.eval (Panel.trial config schema) trial =
      (⟨{ trial.state with database := next }, (trial.skip 1).inputs⟩,
        .ok answer) := by
  change Panel.trial config schema (.sql query) trial = _
  cases input : trial.inputs 0 with
  | fault message => simp [input, Input.healthy] at healthy
  | _ =>
    simp [Panel.trial, Fed.feed, Panel.exec, Database.attempt, input, succeeds]

theorem trial_error {error : SqlError}
    (fails : trial.state.database.execute schema query = .error error) :
    ∃ reported, (sql query).run.eval (Panel.trial config schema) trial =
      (trial.skip 1, .error reported) := by
  cases input : trial.inputs 0 with
  | fault message => exact ⟨_, trial_fault input⟩
  | _ =>
    refine ⟨error, ?_⟩
    change Panel.trial config schema (.sql query) trial = _
    simp [Panel.trial, Fed.feed, Fed.skip, Panel.exec, Database.attempt,
      input, fails]

theorem trial_cases (query : Query) :
    (∃ error, (sql query).run.eval (Panel.trial config schema) trial =
      (trial.skip 1, .error error)) ∨
    ∃ next answer, (sql query).run.eval (Panel.trial config schema) trial =
        (⟨{ trial.state with database := next }, (trial.skip 1).inputs⟩,
          .ok answer) ∧
      trial.state.database.execute schema query = .ok (next, answer) := by
  by_cases healthy : (trial.inputs 0).healthy = true
  · cases outcome : trial.state.database.execute schema query with
    | error error => exact Or.inl (trial_error outcome)
    | ok result =>
      exact Or.inr ⟨result.1, result.2, trial_ok healthy outcome, rfl⟩
  · obtain ⟨message, fault⟩ := Input.exists_fault healthy
    exact Or.inl ⟨_, trial_fault fault⟩

theorem checks_sql {next : Database} {answer : query.Answer}
    (succeeds : trial.state.database.execute schema query =
      .ok (next, answer))
    (kept : Untouched trial.state { trial.state with database := next }) :
    Checks config schema (sql query) trial
      ((trial.inputs 0).healthy = true)
      ⟨{ trial.state with database := next }, (trial.skip 1).inputs⟩
      answer where
  pass healthy := ⟨trial_ok healthy succeeds, kept⟩
  fail faulty := by
    obtain ⟨message, fault⟩ := Input.exists_fault faulty
    exact ⟨_, _, trial_fault fault, Untouched.refl _⟩

theorem checks_read (what : Read) :
    Checks config schema (sql (.read what)) trial
      ((trial.inputs 0).healthy = true) (trial.skip 1)
      (trial.state.database.read what) :=
  checks_sql rfl (Untouched.refl _)

theorem checks_resolve :
    Checks config schema resolve trial ((trial.inputs 0).healthy = true)
      (trial.skip 1) () where
  pass healthy := by
    refine ⟨?_, Untouched.refl _⟩
    cases input : trial.inputs 0 with
    | fault message => simp [input, Input.healthy] at healthy
    | _ =>
      simp [resolve, resolved, outside, Panel.trial, Fed.feed, Fed.skip,
        Panel.exec, Input.answer, Input.unit, input]
  fail faulty := by
    obtain ⟨message, fault⟩ := Input.exists_fault faulty
    refine ⟨trial.skip 1, .protocol message, ?_, Untouched.refl _⟩
    simp [resolve, resolved, outside, Panel.trial, Fed.feed, Fed.skip,
      Panel.exec, Input.answer, Input.unit, fault]

theorem checks_refuseIf (condition : Bool) (message : String) :
    Checks config schema (refuseIf condition message) trial
      (condition = false) trial () where
  pass passes := by
    rw [passes]
    exact ⟨rfl, Untouched.refl _⟩
  fail refuses := by
    rw [Bool.not_eq_false] at refuses
    rw [refuses]
    exact ⟨trial, _, rfl, Untouched.refl _⟩

theorem checks_ensureCapacity :
    Checks config schema (ensureCapacity config) trial
      ((trial.inputs 0).healthy = true ∧ (trial.inputs 1).healthy = true ∧
        (trial.state.database.read .queuedCount : Int) < config.maxSize)
      (trial.skip 2) () := by
  refine (checks_resolve.next fun _ =>
    (checks_read .queuedCount).next fun _ => checks_refuseIf _ _).congr ?_
  rw [decide_eq_false_iff_not, Int.not_le]
  rfl

theorem checks_fetchOne {record : Resource}
    (found : trial.state.database.resource? key = some record) :
    Checks config schema (fetchOne key) trial
      ((trial.inputs 0).healthy = true) (trial.skip 1) record := by
  refine ((checks_read (.resource key)).next fun _ => ?_).congr
    (Iff.of_eq (and_true _))
  simp only [Database.read, found]
  exact comes_here

theorem fetchOne_refuses
    (missing : trial.state.database.resource? key = none) :
    Refuses config schema (fetchOne key) trial := by
  refine (checks_read (.resource key)).refuses fun _ => ?_
  simp only [Database.read, missing]
  exact ⟨_, _, rfl, Untouched.refl _⟩

theorem getById_fault {message : String}
    (fault : trial.inputs 0 = .fault message) :
    (getById key).run.eval (Panel.trial config schema) trial =
      (trial.skip 1, .error (.protocol (SqlError.protocol message).text)) := by
  change ((sql (.read (.resource key))).run >>= _).eval _ _ = _
  rw [eval_bind, trial_fault fault]
  rfl

theorem checks_getById {record : Resource}
    (found : trial.state.database.resource? key = some record) :
    Checks config schema (getById key) trial
      ((trial.inputs 0).healthy = true) (trial.skip 1) record where
  pass healthy := by
    refine ⟨?_, Untouched.refl _⟩
    have reads := (@checks_read config schema trial (.resource key)).pass
      healthy
    change ((sql (.read (.resource key))).run >>= _).eval _ _ = _
    rw [eval_bind, reads.1]
    simp [Database.read, found]
  fail faulty := by
    obtain ⟨message, fault⟩ := Input.exists_fault faulty
    exact ⟨_, _, getById_fault fault, Untouched.refl _⟩

theorem getById_refuses
    (missing : trial.state.database.resource? key = none) :
    Refuses config schema (getById key) trial := by
  by_cases healthy : (trial.inputs 0).healthy = true
  · have reads := (@checks_read config schema trial (.resource key)).pass
      healthy
    refine ⟨trial.skip 1, .protocol SqlError.rowNotFound.text, ?_,
      Untouched.refl _⟩
    change ((sql (.read (.resource key))).run >>= _).eval _ _ = _
    rw [eval_bind, reads.1]
    simp [Database.read, missing]
  · obtain ⟨message, fault⟩ := Input.exists_fault healthy
    exact ⟨_, _, getById_fault fault, Untouched.refl _⟩

/-- The database after a server's management row has been asked for. -/
def Database.managed (database : Database) : Option Int → Database
  | none => database
  | some serverId => database.createServerManagement serverId

def assertSteps : Option Int → Nat
  | none => 0
  | some _ => 2

theorem createServerManagement_read (database : Database)
    (serverId : Int) :
    (database.createServerManagement serverId).read
        (.serverManagement serverId) =
      some ((database.read (.serverManagement serverId)).getD
        ⟨serverId, 0, none⟩) := by
  simp only [Database.createServerManagement, Database.read]
  split
  · rename_i present
    obtain ⟨row, member, same⟩ := List.any_eq_true.mp present
    cases found : database.serverManagement.find? fun row =>
        row.serverId == serverId with
    | some found => rfl
    | none => exact absurd same (List.find?_eq_none.mp found row member)
  · rename_i absent
    have missing : database.serverManagement.find?
        (fun row => row.serverId == serverId) = none := by
      simpa using absent
    simp [List.find?_append, missing]

theorem createServerManagement_deployable (database : Database)
    (serverId : Int) (server : Option Int) :
    (database.createServerManagement serverId).deployable server =
      database.deployable server := by
  cases server with
  | none => rfl
  | some other =>
    by_cases same : other = serverId
    · subst same
      simp only [Database.deployable, createServerManagement_read]
      cases database.read (.serverManagement other) <;> rfl
    · simp only [Database.deployable, Database.createServerManagement,
        Database.read]
      split
      · rfl
      · simp [List.find?_append, Ne.symm same]

theorem untouched_createServerManagement (panel : Panel) (serverId : Int) :
    Untouched panel
      { panel with
        database := panel.database.createServerManagement serverId } := by
  refine ⟨rfl, ?_, ?_, ?_, createServerManagement_deployable _ _⟩ <;>
  · simp only [Database.createServerManagement]
    split <;> rfl

/-- The first `count` inputs are no faults. -/
def Faultless (trial : Trial) : Nat → Prop
  | 0 => True
  | count + 1 =>
    Faultless trial count ∧ (trial.inputs count).healthy = true

theorem faultless_iff (trial : Trial) (count : Nat) :
    Faultless trial count ↔
      ∀ position < count, (trial.inputs position).healthy = true := by
  induction count with
  | zero => simp [Faultless]
  | succ count ih =>
    rw [Faultless, ih]
    exact Nat.forall_lt_succ_right.symm

/-- The panel and the inputs once a server has been asked for. -/
def asserted (trial : Trial) (server : Option Int) : Trial :=
  ⟨{ trial.state with database := trial.state.database.managed server },
    (trial.skip (assertSteps server)).inputs⟩

theorem checks_refuseMaintenance (found : Option ServerManagement) :
    Checks config schema (refuseMaintenance found) trial
      ((found.any fun row => row.maintenanceMode == 0) = true) trial () := by
  cases found with
  | none => exact ⟨nofun, fun _ => ⟨_, _, rfl, Untouched.refl _⟩⟩
  | some row => exact (checks_refuseIf _ _).congr (by simp)

theorem checks_assertDeployable (server : Option Int) :
    Checks config schema (assertDeployable server) trial
      (Faultless trial (assertSteps server) ∧
        trial.state.database.deployable server = true)
      (asserted trial server) () := by
  cases server with
  | none =>
    exact comes_here.congr
      (by simp [Faultless, assertSteps, Database.deployable])
  | some serverId =>
    refine ((checks_sql rfl
      (untouched_createServerManagement trial.state serverId)).next
        fun _ => (checks_read (.serverManagement serverId)).next
          fun _ => checks_refuseMaintenance _).congr ?_
    rw [createServerManagement_read]
    cases found : trial.state.database.read (.serverManagement serverId) <;>
      simp [Faultless, assertSteps, Database.deployable, Fed.skip, found,
        and_assoc]

/-- The number of operations before the insertion; a stop of a compose project
does not look at the server. -/
def admissionSteps (checksServer : Bool) (server : Option Int) : Nat :=
  if checksServer then 6 + assertSteps server else 5

def admitted (trial : Trial) (checksServer : Bool) (server : Option Int) :
    Trial :=
  if checksServer then asserted (trial.skip 6) server else trial.skip 5

theorem admitted_inputs (checksServer : Bool) (server : Option Int)
    (position : Nat) :
    (admitted trial checksServer server).inputs position =
      trial.inputs (position + admissionSteps checksServer server) := by
  cases checksServer with
  | false => rfl
  | true =>
    simp only [admitted, asserted, Fed.skip, admissionSteps, if_true]
    rw [Nat.add_assoc, Nat.add_comm (assertSteps server)]

/-- The checks of a request for an existing record all pass: nothing of the
resource is queued or running, the queue has room, the server takes
deployments, and no step fails. -/
@[mk_iff]
structure Admission (config : Config) (key : ResourceKey)
    (record : Resource) (checksServer : Bool) (trial : Trial) : Prop where
  idle : trial.state.database.read (.hasActive key.selector) = false
  room : (trial.state.database.read .queuedCount : Int) < config.maxSize
  deployable : checksServer = true →
    trial.state.database.deployable record.serverId = true
  faultless :
    Faultless trial (admissionSteps checksServer record.serverId)

theorem admission_of_checks {record : Resource} :
    ((trial.inputs 0).healthy = true ∧
        trial.state.database.read (.hasActive key.selector) = false ∧
        (trial.inputs 1).healthy = true ∧
        ((trial.inputs 2).healthy = true ∧ (trial.inputs 3).healthy = true ∧
          (trial.state.database.read .queuedCount : Int) < config.maxSize) ∧
        (trial.inputs 4).healthy = true ∧ (trial.inputs 5).healthy = true ∧
        (Faultless (trial.skip 6) (assertSteps record.serverId) ∧
          trial.state.database.deployable record.serverId = true) ∧ True) ↔
      Admission config key record true trial := by
  rw [admission_iff]
  cases server : record.serverId with
  | none =>
    simp only [Faultless, admissionSteps, assertSteps, if_true]
    tauto
  | some serverId =>
    simp only [Faultless, admissionSteps, assertSteps, if_true, Fed.skip]
    tauto

end

end OpenOxide.Deployment
