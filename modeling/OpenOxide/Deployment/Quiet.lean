import OpenOxide.Deployment.Roles

/-!
# Quiet code

A program is quiet when it performs harmless operations only.  Most of the
code that surrounds the queue is: what it reads, what it asks the outside, the
columns it writes that are no status.
-/

namespace OpenOxide.Deployment

open Concurrency

/-- A program of harmless operations. -/
abbrev Quiet {α : Type} (program : Action α) : Prop :=
  program.Only fun op => harmless op = true

/-- A statement that assigns no status and inserts nothing. -/
def Query.neutral (query : Query) : Prop :=
  (∀ statement, query.update? = some statement → statement.status = none) ∧
    ∀ database, query.inserted database = []

variable {query : Query}

theorem neutral_of_harmless
    (quiet : harmless (.sql query) = true) : query.neutral := by
  cases query with
  | update statement =>
    refine ⟨?_, fun _ => rfl⟩
    intro other updates
    cases updates
    simpa [harmless] using quiet
  | read | createServerManagement =>
    refine ⟨?_, fun _ => rfl⟩
    intro statement updates
    simp [Query.update?] at updates
  | _ => cases quiet

variable {α : Type} {action : SqlAction α}
  {answer : Action (Except String Unit)}

theorem quiet_read (what : Read) : Quiet (sql (.read what)).run :=
  Program.only_perform rfl

theorem quiet_update {statement : DeploymentUpdate}
    (neutral : statement.status = none) :
    Quiet (sql (.update statement)).run :=
  Program.only_perform (by simp [harmless, neutral])

theorem quiet_outside (request : Outside) : Quiet (outside request) :=
  Program.only_perform rfl

theorem quiet_resolved : Quiet resolved :=
  quiet_outside .resolve

theorem quiet_memory {op : MemoryOp} (calm : harmless (.memory op) = true) :
    Quiet (memory op) :=
  Program.only_perform calm

theorem quiet_ignore (quiet : Quiet action.run) : Quiet (ignore action) :=
  quiet.bind fun _ => trivial

theorem quiet_resolve : Quiet resolve.run := by
  refine quiet_resolved.bind fun outcome => ?_
  cases outcome <;> trivial

theorem quiet_refuseIf (condition : Bool) (message : String) :
    Quiet (refuseIf condition message).run := by
  unfold refuseIf
  split <;> trivial

theorem quiet_notify : Quiet notify :=
  quiet_memory rfl

theorem quiet_ensureCapacity (config : Config) :
    Quiet (ensureCapacity config).run :=
  quiet_resolve.andThen fun _ =>
    (quiet_read .queuedCount).andThen fun _ => quiet_refuseIf _ _

variable (key : ResourceKey)

theorem quiet_getById : Quiet (getById key).run := by
  refine (quiet_read (.resource key)).bind fun outcome => ?_
  rcases outcome with _ | _ | _ <;> trivial

theorem quiet_assertDeployable (server : Option Int) :
    Quiet (assertDeployable server).run := by
  cases server with
  | none => trivial
  | some serverId =>
    refine Program.Only.andThen (Program.only_perform rfl) fun _ =>
      (quiet_read (.serverManagement serverId)).andThen fun found => ?_
    cases found with
    | none => trivial
    | some row => exact quiet_refuseIf _ _

theorem quiet_assertComposeDeployable (operation : ServiceOperation)
    (compose : Resource) :
    Quiet (assertComposeDeployable operation compose).run := by
  cases operation with
  | stop => trivial
  | _ => exact quiet_resolve.andThen fun _ => quiet_assertDeployable _

theorem quiet_fetchOne : Quiet (fetchOne key).run := by
  refine (quiet_read (.resource key)).andThen fun found => ?_
  cases found <;> trivial

/-- The operations of the clean-up of remote jobs. -/
def cleansUp : Op → Prop
  | .sql (.read _) | .outside _ => True
  | .sql (.update statement) => ∃ id, statement = setPidNull id
  | _ => False

theorem only_killRemotePid (deploymentId serverId : Int) (pidFile : String) :
    (killRemotePid deploymentId serverId pidFile).Only cleansUp := by
  refine (Program.only_perform trivial).passing (fun _ => trivial) fun _ => ?_
  refine (Program.only_perform trivial).passing (fun _ => trivial) fun _ => ?_
  refine (Program.only_perform trivial).passing (fun _ => trivial) fun _ => ?_
  exact ⟨⟨_, rfl⟩, fun _ => trivial⟩

theorem only_cleanupStaleRemoteJobs :
    cleanupStaleRemoteJobs.Only cleansUp := by
  refine (Program.only_perform trivial).passing (fun _ => trivial) fun _ => ?_
  refine (Program.only_perform trivial).passing (fun _ => trivial)
    fun rows => ?_
  refine Program.Only.forEach (fun job => ?_) rows
  exact (only_killRemotePid _ _ _).bind fun _ => trivial

theorem quiet_of_cleansUp {program : Action α}
    (cleans : program.Only cleansUp) : Quiet program := by
  refine cleans.weaken fun op cleans => ?_
  unfold cleansUp at cleans
  split at cleans
  · rfl
  · rfl
  · obtain ⟨id, rfl⟩ := cleans
    rfl
  · cases cleans

theorem quiet_killAll (jobs : List (Int × Int × String)) :
    Quiet (killAll jobs) := by
  induction jobs with
  | nil => trivial
  | cons job others induction =>
    exact (quiet_of_cleansUp (only_killRemotePid _ _ _)).bind fun _ =>
      induction.bind fun _ => trivial

theorem quiet_retryStaleRemoteCleanup (attempts : Nat) :
    Quiet (retryStaleRemoteCleanup attempts) := by
  induction attempts with
  | zero => trivial
  | succ attempts induction =>
    refine quiet_resolved.passing (fun _ => trivial) fun _ => ?_
    refine (quiet_read .recoveredRemoteJobs).bind fun rows => ?_
    rcases rows with _ | _ | ⟨job, others⟩
    · trivial
    · trivial
    · refine (quiet_killAll (job :: others)).bind fun pending => ?_
      cases pending with
      | zero => trivial
      | succ _ => exact induction

theorem quiet_resetToken (key : IdType) : Quiet (resetToken key) := by
  refine Program.Only.bind (quiet_memory rfl) fun _ =>
    Program.Only.bind (quiet_memory rfl) fun token => ?_
  cases token with
  | some token => trivial
  | none => exact quiet_memory rfl

theorem quiet_recordEvents (deploymentId : Int) (events : Nat) :
    Quiet (recordEvents deploymentId events) := by
  induction events with
  | zero => trivial
  | succ events induction =>
    refine (quiet_outside .event).bind fun event => ?_
    cases event with
    | message _ => exact induction
    | _ =>
      exact Program.Only.bind (quiet_ignore (quiet_update rfl))
        fun _ => induction

theorem quiet_receiveEvents (deploymentId : Int) :
    Quiet (receiveEvents deploymentId) := by
  refine quiet_resolved.passing (fun _ => trivial) fun _ => ?_
  exact (quiet_outside .rounds).bind fun _ =>
    quiet_recordEvents _ _

theorem quiet_recordBuilderEvents (config : Config) (deploymentId : Int) :
    Quiet (recordBuilderEvents config deploymentId) := by
  refine quiet_resolved.bind fun found => ?_
  cases found with
  | error _ => exact quiet_receiveEvents deploymentId
  | ok _ =>
    exact Program.Only.bind (quiet_ignore (quiet_update rfl)) fun _ =>
      quiet_receiveEvents deploymentId

theorem quiet_cancelToken (key : IdType) : Quiet (cancelToken key) := by
  refine quiet_resolved.passing (fun _ => trivial) fun _ => ?_
  exact Program.Only.bind (quiet_memory rfl) fun _ => trivial

theorem quiet_executorFor : Quiet (executorFor key) := by
  refine (quiet_read (.resource key)).bind fun found => ?_
  rcases found with _ | _ | resource
  · trivial
  · trivial
  · dsimp only
    split
    · trivial
    · refine (quiet_outside _).bind fun executor => ?_
      cases executor <;> trivial

theorem quiet_dockerIgnore (host : Host) (command : DockerCommand) :
    Quiet (dockerIgnore host command) :=
  Program.Only.bind (quiet_outside _) fun _ => trivial

theorem quiet_scaleDownMatching (config : Config) (host : Host)
    (appName userName : String) :
    Quiet (scaleDownMatching config host appName userName) := by
  refine (quiet_outside _).passing (fun _ => trivial) fun services => ?_
  refine Program.Only.forEach (fun service => ?_) services
  split
  · exact quiet_dockerIgnore host _
  · trivial

theorem quiet_stopApplicationContainers (config : Config) (host : Host)
    (appName userName : String) :
    Quiet (stopApplicationContainers config host appName userName) := by
  have rest := fun _ : Unit => Program.Only.bind
    (quiet_scaleDownMatching config host appName userName) fun _ =>
      Program.Only.forEach
        (fun candidate => quiet_dockerIgnore host (.containerStop candidate))
        (applicationCandidates appName userName)
  refine Program.Only.bind (quiet_dockerIgnore host _) fun _ => ?_
  split
  · exact Program.Only.bind (quiet_dockerIgnore host _) rest
  · exact rest ()

theorem quiet_scaleDownServices (host : Host) (filter : String) :
    Quiet (scaleDownServices host filter) := by
  refine (quiet_outside _).passing (fun _ => trivial) fun services => ?_
  refine Program.Only.forEach (fun service => ?_) services
  split
  · exact quiet_dockerIgnore host _
  · trivial

theorem quiet_scaleDownCompose (appName : String) (composeType : ComposeType) :
    Quiet (scaleDownCompose key appName composeType) := by
  refine (quiet_executorFor key).passing (fun _ => trivial) fun host => ?_
  cases composeType with
  | dockerCompose => exact quiet_dockerIgnore host _
  | stack =>
    exact Program.Only.bind (quiet_dockerIgnore host _) fun _ =>
      quiet_scaleDownServices host appName

theorem quiet_databaseHost (server : Option Int) :
    Quiet (databaseHost server) := by
  cases server with
  | none => trivial
  | some serverId =>
    refine (quiet_outside _).bind fun executor => ?_
    cases executor <;> trivial

theorem quiet_stopDatabaseContainers (host : Host) (appName : String) :
    Quiet (stopDatabaseContainers host appName) :=
  Program.Only.bind (quiet_scaleDownServices host _) fun _ =>
    Program.Only.forEach (fun _ =>
      Program.Only.bind (quiet_dockerIgnore host _) fun _ =>
        quiet_dockerIgnore host _) _

theorem quiet_stopContainers (config : Config) (key : ResourceKey)
    (record : Resource) : Quiet (stopContainers config key record) := by
  cases key with
  | application id =>
    refine (quiet_executorFor _).passing (fun _ => trivial) fun host => ?_
    exact quiet_stopApplicationContainers config host _ _
  | compose id => exact quiet_scaleDownCompose _ _ _
  | database kind id =>
    exact Program.Only.bind (quiet_databaseHost _) fun host =>
      quiet_stopDatabaseContainers host _

theorem quiet_outsideSql (quiet : Quiet answer) :
    Quiet (outsideSql answer).run := by
  refine quiet.bind fun outcome => ?_
  cases outcome <;> trivial

theorem quiet_notifyDeploymentFinished (status : DeploymentStatus) :
    Quiet (notifyDeploymentFinished status) := by
  unfold notifyDeploymentFinished
  split
  · trivial
  · refine quiet_resolved.passing (fun _ => trivial) fun _ => ?_
    exact quiet_outside .sendNotification

theorem neutral_of_quiet {program : Action α} (quiet : Quiet program) :
    program.Only fun op => ∀ query, op = .sql query → query.neutral := by
  apply quiet.weaken
  rintro op harmless query rfl
  exact neutral_of_harmless harmless

end OpenOxide.Deployment
