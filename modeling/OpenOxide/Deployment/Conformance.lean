import OpenOxide.Deployment.Builds

/-!
# The panel's tasks conform to their roles

Most of the code only performs harmless operations, which keep the phase of
nearly every role.  What is left is followed operation by operation, and
`machine_sound` collects the results: every task that a call, a spawn or a
panic creates follows the protocol of the role it is created with.
-/

namespace OpenOxide.Deployment

open Concurrency

/-- Roles whose phase no harmless operation moves. -/
def Role.calm : Role → Bool
  | .worker _ .deciding | .worker _ .handling => false
  | .killer _ => false
  | .canceller _ .asking => false
  | _ => true

theorem advance_of_calm {role : Role} (calm : role.calm = true) (op : Op)
    (answer : op.Answer) (quiet : harmless op = true) :
    advance role op answer = role := by
  unfold advance
  split <;> simp_all [harmless, Role.calm]

variable {α : Type}

theorem Quiet.stays {program : Action α} (quiet : Quiet program)
    {role : Role} (calm : role.calm = true) :
    protocol.Follows role program fun _ reached => reached = role :=
  protocol.follows_only quiet (fun _ harmless => Or.inl harmless)
    (advance_of_calm calm)

variable {action : SqlAction α}

section

variable {β ε : Type} {role : Role}

theorem follows_moving {next : α → Action β} {first : Action α}
    {target : Role} {ends : β → Role → Prop}
    (moves : protocol.Follows role first fun _ reached => reached = target)
    (after : ∀ value, protocol.Follows target (next value) ends) :
    protocol.Follows role (first >>= next) ends := by
  rw [Protocol.follows_bind]
  apply moves.weaken
  rintro value reached rfl
  exact after value

theorem follows_quiet_bind {first : Action α} {next : α → Action β}
    {ends : β → Role → Prop} (quiet : Quiet first) (calm : role.calm = true)
    (after : ∀ value, protocol.Follows role (next value) ends) :
    protocol.Follows role (first >>= next) ends :=
  follows_moving (Quiet.stays quiet calm) after

theorem follows_moving_andThen {first : ExceptT ε Action α}
    {next : α → ExceptT ε Action β} {target : Role}
    {ends : Except ε β → Role → Prop}
    (moves : protocol.Follows role first.run fun _ reached =>
      reached = target)
    (failed : ∀ failure, ends (.error failure) target)
    (after : ∀ value, protocol.Follows target (next value).run ends) :
    protocol.Follows role (first >>= next).run ends := by
  rw [Protocol.follows_andThen]
  apply moves.weaken
  rintro (failure | value) reached rfl
  · exact failed failure
  · exact after value

theorem follows_quiet_andThen {first : ExceptT ε Action α}
    {next : α → ExceptT ε Action β} {ends : Except ε β → Role → Prop}
    (quiet : Quiet first.run) (calm : role.calm = true)
    (failed : ∀ failure, ends (.error failure) role)
    (after : ∀ value, protocol.Follows role (next value).run ends) :
    protocol.Follows role (first >>= next).run ends :=
  follows_moving_andThen (Quiet.stays quiet calm) failed after

theorem follows_sql {query : Query}
    {ends : Except SqlError query.Answer → Role → Prop}
    (allowed : harmless (.sql query) = true ∨ Move role (.sql query))
    (succeeds : ∀ answer, ends (.ok answer)
      (advance role (.sql query) (.ok answer)))
    (fails : ∀ error, ends (.error error)
      (advance role (.sql query) (.error error))) :
    protocol.Follows role (sql query).run ends := by
  refine ⟨allowed, fun outcome => ?_⟩
  cases outcome with
  | ok answer => exact succeeds answer
  | error error => exact fails error

theorem follows_updateStatus {key : ResourceKey} {status : ResourceStatus}
    {target : Role} (calm : target.calm = true)
    (moves : protocol.Follows role (sql (.updateStatus key status)).run
      fun _ reached => reached = target) :
    protocol.Follows role (updateStatus key status).run
      fun _ reached => reached = target :=
  follows_moving_andThen moves (fun _ => rfl) fun _ =>
    (quiet_fetchOne key).stays calm

theorem follows_ignore {target : Role}
    (moves : protocol.Follows role action.run fun _ reached =>
      reached = target) :
    protocol.Follows role (ignore action) fun _ reached => reached = target :=
  protocol.follows_bind.mpr moves

end

section Services

/-- A task that may end wherever it is. -/
abbrev EndsWell {α : Type} (role : Role) (program : Action α) : Prop :=
  protocol.Follows role program fun _ reached => ended reached = true

theorem endsWell_of_reached {role target : Role} {program : Action α}
    (moves : protocol.Follows role program fun _ reached => reached = target)
    (final : ended target = true) : EndsWell role program := by
  apply moves.weaken
  rintro _ reached rfl
  exact final

theorem follows_answered {role : Role} {action : Action α}
    (follows : EndsWell role action) : EndsWell role (answered action) :=
  protocol.follows_bind.mpr follows

section

variable (key : ResourceKey)

include key

theorem follows_announce (deploymentId : Int) {status : ResourceStatus}
    (transitional : status = .starting ∨ status = .stopping) :
    protocol.Follows (.service key (.inserted deploymentId))
      (updateStatus key status).run
      fun _ reached => reached = .service key (.inserted deploymentId) :=
  follows_updateStatus rfl
    (follows_sql (Or.inr (.announce key deploymentId transitional))
      (fun _ => rfl) fun _ => rfl)

theorem follows_markStopping (building : Bool) :
    protocol.Follows (.service key .asking)
      (sql (.updateStatus key (stopStatuses building).1)).run
      fun _ reached => reached = .service key .stopping := by
  refine follows_sql (Or.inr (.markStopping key building)) ?_ ?_
  · intro answer
    cases building <;> rfl
  · intro error
    cases building <;> rfl

theorem follows_cancelQueued :
    protocol.Follows (.service key .stopping)
      (sql (.update (cancelQueued key.selector))).run
      fun _ reached => reached = .service key .stopping :=
  follows_sql (Or.inr (.cancelQueue key)) (fun _ => rfl) fun _ => rfl

theorem follows_cancelQueue :
    protocol.Follows (.service key .stopping)
      (cancelQueue (cancelQueuedBy key.selector))
      fun _ reached => reached = .service key .stopping := by
  refine follows_quiet_bind quiet_resolved rfl fun found => ?_
  cases found with
  | error _ => rfl
  | ok _ =>
    apply follows_ignore
    refine follows_quiet_andThen quiet_resolve rfl (fun _ => rfl) fun _ => ?_
    refine follows_quiet_andThen (quiet_read _) rfl (fun _ => rfl)
      fun _ => ?_
    exact follows_moving_andThen (follows_cancelQueued key) (fun _ => rfl)
      fun _ => rfl

theorem follows_requestCancel {statement : DeploymentUpdate}
    (requests : key.requestCancel = some statement) :
    protocol.Follows (.service key .stopping) (sql (.update statement)).run
      fun _ reached => reached = .service key .stopping :=
  follows_sql (Or.inr (.requestCancel key requests)) (fun _ => rfl)
    fun _ => rfl

end

theorem follows_spawnStop (job : StopJob) :
    protocol.Follows (.service job.key .stopping)
      (spawn (.stopJob job) >>= fun _ => pure (.ok true) :
        Action (Except SqlError Bool))
      fun _ reached => reached = .service job.key .closed :=
  ⟨Or.inr (.spawnStop job), fun _ => rfl⟩

theorem follows_stopApplication (id : Int) :
    protocol.Follows (.service (.application id) .asking) (stopApplication id)
      fun outcome reached =>
        reached = .service (.application id) .closed ∨
          reached = .service (.application id) .asking ∧
            ∃ error, outcome = .error error := by
  refine follows_quiet_bind (quiet_getById _) rfl fun found => ?_
  cases found with
  | error error => exact Or.inr ⟨rfl, error, rfl⟩
  | ok application =>
    refine follows_moving (follows_ignore
      (follows_updateStatus rfl (follows_markStopping _ _))) fun _ => ?_
    refine follows_moving (follows_cancelQueue (.application id))
      fun _ => ?_
    refine follows_quiet_bind (quiet_cancelToken _) rfl fun _ => ?_
    refine follows_moving (follows_ignore
      (follows_requestCancel (.application id) rfl)) fun _ => ?_
    exact (follows_spawnStop ⟨.application id, _, _⟩).weaken
      fun _ _ same => Or.inl same

theorem follows_stopCompose (id : Int) :
    protocol.Follows (.service (.compose id) .asking) (stopCompose id)
      fun outcome reached =>
        reached = .service (.compose id) .closed ∨
          reached = .service (.compose id) .asking ∧
            ∃ error, outcome = .error error := by
  refine follows_quiet_bind (quiet_getById _) rfl fun found => ?_
  cases found with
  | error error => exact Or.inr ⟨rfl, error, rfl⟩
  | ok compose =>
    refine follows_moving (follows_ignore
      (follows_updateStatus rfl (follows_markStopping _ _))) fun _ => ?_
    refine follows_moving (follows_cancelQueue (.compose id))
      fun _ => ?_
    refine follows_quiet_bind (quiet_cancelToken _) rfl fun _ => ?_
    refine follows_quiet_bind (quiet_ignore (quiet_update rfl)) rfl
      fun _ => ?_
    exact (follows_spawnStop ⟨.compose id, _, _⟩).weaken
      fun _ _ same => Or.inl same

theorem follows_stopDatabase (kind : DatabaseKind) (id : Int) :
    protocol.Follows (.service (.database kind id) .asking)
      (stopDatabase kind id)
      fun _ reached => reached = .service (.database kind id) .closed := by
  refine follows_quiet_bind (quiet_getById _) rfl fun found => ?_
  refine follows_moving (follows_ignore (follows_markStopping _ _))
    fun _ => ?_
  refine follows_moving (follows_cancelQueue (.database kind id))
    fun _ => ?_
  refine follows_quiet_bind (quiet_cancelToken _) rfl fun _ => ?_
  refine follows_moving (follows_ignore
    (follows_cancelQueued (.database kind id))) fun _ => ?_
  refine follows_moving (follows_ignore
    (follows_requestCancel (.database kind id) rfl)) fun _ => ?_
  exact follows_spawnStop ⟨.database kind id, _, _⟩

theorem follows_create {β : Type} (new : NewDeployment) {phase : ServicePhase}
    (unborn : phase = .asking ∧ (∀ kind id, new.key ≠ .database kind id) ∨
      phase = .marked)
    {next : Int → SqlAction β}
    (after : ∀ deploymentId,
      EndsWell (.service new.key (.inserted deploymentId))
        (next deploymentId).run) :
    EndsWell (.service new.key phase)
      ((sql (.createQueued new) : SqlAction Int) >>= next).run := by
  rw [EndsWell, Protocol.follows_andThen]
  refine follows_sql (Or.inr (.create new unborn)) ?_ ?_
  · intro deploymentId
    rcases unborn with ⟨rfl, _⟩ | rfl
    · exact after deploymentId
    · exact after deploymentId
  · intro error
    rcases unborn with ⟨rfl, _⟩ | rfl
    · rfl
    · rfl

theorem service_quiet {ε β : Type} {key : ResourceKey}
    {phase : ServicePhase} {first : ExceptT ε Action α}
    {next : α → ExceptT ε Action β}
    (ends : ended (.service key phase) = true) (quiet : Quiet first.run)
    (after : ∀ value, EndsWell (.service key phase) (next value).run) :
    EndsWell (.service key phase) (first >>= next).run :=
  follows_quiet_andThen quiet rfl (fun _ => ends) after

variable (config : Config)

theorem follows_runApplicationOperation (id : Int)
    (operation : ApplicationOperation) :
    EndsWell (.service (.application id) .asking)
      (runApplicationOperation config id operation).run := by
  refine service_quiet rfl (quiet_read _) fun _ => ?_
  refine service_quiet rfl (quiet_refuseIf _ _) fun _ => ?_
  refine service_quiet rfl quiet_resolve fun _ => ?_
  refine service_quiet rfl (quiet_ensureCapacity config) fun _ => ?_
  refine service_quiet rfl (quiet_getById _) fun application => ?_
  refine service_quiet rfl quiet_resolve fun _ => ?_
  refine service_quiet rfl (quiet_assertDeployable _) fun _ => ?_
  refine follows_create (applicationDeployment operation id application)
    (Or.inl ⟨rfl, by simp [applicationDeployment]⟩) fun deploymentId => ?_
  refine follows_moving_andThen (follows_announce (.application id)
    deploymentId (Or.inl rfl)) (fun _ => rfl) fun _ => ?_
  refine service_quiet rfl (quiet_update rfl) fun _ => ?_
  refine service_quiet rfl quiet_resolve fun _ => ?_
  exact service_quiet rfl (Program.Only.lift quiet_notify) fun _ => rfl

theorem follows_queueComposeOperation (id : Int)
    (operation : ServiceOperation) :
    EndsWell (.service (.compose id) .asking)
      (queueComposeOperation config id operation).run := by
  refine service_quiet rfl quiet_resolve fun _ => ?_
  refine service_quiet rfl (quiet_ensureCapacity config) fun _ => ?_
  refine service_quiet rfl (quiet_getById _) fun compose => ?_
  refine service_quiet rfl (quiet_assertComposeDeployable _ _) fun _ => ?_
  refine follows_create (composeDeployment operation id compose)
    (Or.inl ⟨rfl, by simp [composeDeployment]⟩) fun deploymentId => ?_
  refine service_quiet rfl (quiet_update rfl) fun _ => ?_
  refine service_quiet rfl quiet_resolve fun _ => ?_
  refine service_quiet rfl (Program.Only.lift quiet_notify) fun _ => ?_
  have transitional : composeStatus operation = .starting ∨
      composeStatus operation = .stopping := by
    cases operation <;> simp [composeStatus]
  exact follows_moving_andThen (follows_announce (.compose id) deploymentId
    transitional) (fun _ => rfl) fun _ => rfl

theorem follows_cancelBusyCompose (id : Int) :
    EndsWell (.service (.compose id) .asking) (cancelBusyCompose id).run := by
  rw [EndsWell, cancelBusyCompose, Protocol.follows_andThen]
  apply (follows_stopCompose id).weaken
  rintro (error | stopped) reached (rfl | ⟨rfl, _⟩)
  · rfl
  · rfl
  · exact service_quiet rfl (quiet_getById _) fun _ => rfl
  · exact service_quiet rfl (quiet_getById _) fun _ => rfl

theorem follows_runComposeOperation (id : Int) (operation : ServiceOperation) :
    EndsWell (.service (.compose id) .asking)
      (runComposeOperation config id operation).run := by
  refine service_quiet rfl (quiet_read _) fun running => ?_
  cases running with
  | false => exact follows_queueComposeOperation config id operation
  | true =>
    cases operation with
    | stop => exact follows_cancelBusyCompose id
    | _ => rfl

theorem follows_queueDatabaseOperation
    (kind : DatabaseKind) (id : Int) (operation : ServiceOperation) :
    EndsWell (.service (.database kind id) .asking)
      (queueDatabaseOperation config kind id operation).run := by
  refine service_quiet rfl (quiet_read _) fun _ => ?_
  refine service_quiet rfl (quiet_refuseIf _ _) fun _ => ?_
  refine service_quiet rfl quiet_resolve fun _ => ?_
  refine service_quiet rfl (quiet_ensureCapacity config) fun _ => ?_
  refine service_quiet rfl ((quiet_fetchOne _).andThen fun _ => trivial)
    fun found => ?_
  refine service_quiet rfl quiet_resolve fun _ => ?_
  refine service_quiet rfl (quiet_assertDeployable _) fun _ => ?_
  rw [EndsWell, Protocol.follows_andThen]
  refine follows_sql (Or.inr (.markStarting kind id)) ?_ fun _ => rfl
  intro _
  refine follows_create (databaseDeployment operation kind id found.1 found.2)
    (Or.inr rfl) fun deploymentId => ?_
  refine service_quiet rfl (quiet_update rfl) fun _ => ?_
  refine service_quiet rfl quiet_resolve fun _ => ?_
  refine service_quiet rfl (Program.Only.lift quiet_notify) fun _ => ?_
  exact service_quiet rfl (quiet_getById _) fun _ => rfl

theorem follows_runDatabaseOperation (kind : DatabaseKind)
    (id : Int) (operation : ServiceOperation) :
    EndsWell (.service (.database kind id) .asking)
      (runDatabaseOperation config kind id operation).run := by
  cases operation with
  | stop =>
    exact follows_moving_andThen (follows_stopDatabase kind id)
      (fun _ => rfl) fun _ =>
        service_quiet rfl (quiet_getById _) fun _ => rfl
  | _ => exact follows_queueDatabaseOperation config kind id _

theorem follows_finishStop (key : ResourceKey) (status : ResourceStatus) :
    protocol.Follows (.stopJob key status false)
      (sql (.updateStatus key status)).run
      fun _ reached => reached = .stopJob key status true :=
  follows_sql (Or.inr (.finishStop key status)) (fun _ => rfl) fun _ => rfl

theorem follows_writeFinalStatus (key : ResourceKey)
    (status : ResourceStatus) :
    protocol.Follows (.stopJob key status false) (writeFinalStatus key status)
      fun _ reached => reached = .stopJob key status true := by
  cases key with
  | database kind id => exact follows_ignore (follows_finishStop _ status)
  | _ =>
    exact follows_ignore
      (follows_updateStatus rfl (follows_finishStop _ status))

theorem follows_stopJob (job : StopJob) :
    EndsWell (.stopJob job.key job.finalStatus false)
      (stopJob config job) := by
  have finishing : EndsWell (.stopJob job.key job.finalStatus false)
      (writeFinalStatus job.key job.finalStatus) :=
    endsWell_of_reached (follows_writeFinalStatus _ _) rfl
  unfold stopJob
  split
  · exact follows_quiet_bind (quiet_stopContainers config _ _) rfl
      fun _ => finishing
  · exact finishing

/-- A cancellation that found no token leaves its caller in the phase in
which a force-kill may end the deployment itself. -/
def CancelEnds (id : Int) (outcome : Except SqlError CancelDeploymentResult)
    (reached : Role) : Prop :=
  (outcome = .ok .notActiveInThisProcess →
    reached = .canceller id .inactive) ∧
  ended reached = true

theorem follows_decline (id : Int) (phase : CancelPhase)
    {result : CancelDeploymentResult} (refused : result ≠ .cancelRequested) :
    protocol.Follows (.canceller id phase) (cancelReturns id result).run
      (CancelEnds id) := by
  refine ⟨Or.inr (.decline id refused), fun _ => ⟨?_, ?_⟩⟩
  · intro returned
    cases Except.ok.inj returned
    cases phase <;> rfl
  · cases result <;> cases phase <;> rfl

theorem follows_confirm (id : Int) :
    protocol.Follows (.canceller id .requested)
      (cancelReturns id .cancelRequested).run (CancelEnds id) :=
  ⟨Or.inr (.confirm id), fun _ => ⟨nofun, rfl⟩⟩

theorem follows_cancel_running (id : Int) (key : IdType) :
    protocol.Follows (.canceller id .sawRunning)
      ((do
        resolve
        let active : Bool ← ExceptT.lift (memory (.cancelById key))
        if active then do
          let _ ← sql (.update (setCancelRequested id))
          cancelReturns id .cancelRequested
        else cancelReturns id .notActiveInThisProcess :
          SqlAction CancelDeploymentResult).run)
      (CancelEnds id) := by
  refine follows_quiet_andThen quiet_resolve rfl (fun _ => ⟨nofun, rfl⟩)
    fun _ => ?_
  refine follows_quiet_andThen (Program.Only.lift (quiet_memory rfl)) rfl
    (fun _ => ⟨nofun, rfl⟩) fun active => ?_
  cases active with
  | false => exact follows_decline id _ nofun
  | true =>
    exact (protocol.follows_andThen).mpr
      (follows_sql (Or.inr (.requestDeployment id))
        (fun _ => follows_confirm id) fun _ => ⟨nofun, rfl⟩)

theorem follows_cancel (id : Int) :
    protocol.Follows (.canceller id .asking) (cancel id).run
      (CancelEnds id) := by
  rw [cancel, Protocol.follows_andThen]
  refine follows_sql (Or.inl rfl) ?_ fun error => ⟨nofun, rfl⟩
  rintro (_ | ⟨target, status⟩)
  · exact ⟨nofun, rfl⟩
  · cases status with
    | queued =>
      refine (protocol.follows_andThen).mpr
        (follows_sql (Or.inr (.cancelDeployment id)) ?_ ?_)
      · exact fun _ => follows_confirm id
      · exact fun _ => ⟨nofun, rfl⟩
    | running =>
      dsimp only
      split
      · exact follows_decline id _ nofun
      · exact follows_cancel_running id _
    | _ => exact follows_decline id _ nofun

/-- A force-kill looks for the running deployment before it cancels it. -/
theorem follows_findRunning {β : Type} (key : ResourceKey)
    (selector : Selector)
    {next : Option RunningDeployment → SqlAction β}
    (nothing : EndsWell (.killer selector) (next none).run)
    (something : ∀ deployment,
      EndsWell (.canceller deployment.id .asking)
        (next (some deployment)).run) :
    EndsWell (.killer selector)
      ((do
        let _ ← getById key
        let found : Option RunningDeployment ←
          sql (.read (.running selector))
        next found : SqlAction β).run) := by
  have looked : protocol.Follows (.killer selector) (getById key).run
      fun _ reached => reached = .killer selector := by
    refine ⟨Or.inl rfl, fun outcome => ?_⟩
    rcases outcome with _ | _ | _ <;> rfl
  rw [EndsWell, Protocol.follows_andThen]
  apply looked.weaken
  rintro (error | resource) reached rfl
  · rfl
  · refine (protocol.follows_andThen).mpr
      (follows_sql (Or.inl rfl) ?_ fun _ => rfl)
    rintro (_ | deployment)
    · exact nothing
    · exact something deployment

theorem follows_forceKillDeployment (id : Int) :
    EndsWell (.killer (.application id)) (forceKillDeployment id).run := by
  apply follows_findRunning
  · rfl
  · intro deployment
    refine (protocol.follows_andThen).mpr ((follows_cancel _).weaken ?_)
    rintro (error | result) reached ⟨inactive, hasEnded⟩
    · exact hasEnded
    · dsimp only
      split
      · cases inactive rfl
        refine follows_quiet_andThen
          (quiet_outsideSql (quiet_outside (.remoteExecutor _))) rfl
          (fun _ => rfl) fun _ => ?_
        refine follows_quiet_andThen
          (quiet_outsideSql (quiet_outside (.killPidFile _ _))) rfl
          (fun _ => rfl) fun _ => ?_
        exact (protocol.follows_andThen).mpr
          (follows_sql (Or.inr (.forceKill deployment.id id))
            (fun _ => rfl) fun _ => rfl)
      · exact hasEnded

theorem follows_cleanup (selector : Selector) :
    protocol.Follows (.cleaner selector)
      (sql (.update (cancelQueued selector))).run
      fun _ reached => reached = .cleaner selector :=
  follows_sql (Or.inr (.cleanup selector)) (fun _ => rfl) fun _ => rfl

theorem follows_cleanupQueue (key : ResourceKey) :
    EndsWell (.cleaner key.selector) (cleanupQueue key).run := by
  have last : EndsWell (.cleaner key.selector)
      (sql (.update (cancelQueued key.selector))).run :=
    endsWell_of_reached (follows_cleanup key.selector) rfl
  refine follows_quiet_andThen (quiet_getById key) rfl (fun _ => rfl)
    fun _ => ?_
  rw [Protocol.follows_andThen, Protocol.follows_lift]
  refine follows_quiet_bind quiet_resolved rfl fun found => ?_
  cases found with
  | error _ => exact last
  | ok _ =>
    refine protocol.follows_bind.mpr ?_
    refine follows_quiet_andThen quiet_resolve rfl (fun _ => last)
      fun _ => ?_
    refine follows_quiet_andThen (quiet_read _) rfl (fun _ => last)
      fun _ => ?_
    exact follows_moving_andThen (follows_cleanup key.selector)
      (fun _ => last) fun _ => last

end Services

theorem follows_recoverStatuses (family : ResourceFamily) :
    protocol.Follows (.boot .recovering)
      (sql (.recoverStaleStatuses family)).run
      fun _ reached => reached = .boot .recovering :=
  follows_sql (Or.inr (.recoverStatuses family)) (fun _ => rfl) fun _ => rfl

theorem follows_recoverStaleDatabaseStatuses (kinds : List DatabaseKind) :
    protocol.Follows (.boot .recovering)
      (recoverStaleDatabaseStatuses kinds).run
      fun _ reached => reached = .boot .recovering := by
  induction kinds with
  | nil => rfl
  | cons kind others induction =>
    exact follows_moving_andThen (follows_recoverStatuses (.databases kind))
      (fun _ => rfl) fun _ => induction

theorem follows_recoverStaleDeployments :
    protocol.Follows (.boot .recovering) recoverStaleDeployments
      fun _ reached => reached = .boot .recovering := by
  refine follows_quiet_bind
    (quiet_of_cleansUp only_cleanupStaleRemoteJobs) rfl fun _ => ?_
  refine follows_quiet_bind quiet_resolved rfl fun found => ?_
  cases found with
  | error _ => rfl
  | ok _ =>
    refine follows_moving (follows_ignore
      (follows_sql (Or.inr .recoverDeployments) (fun _ => rfl)
        fun _ => rfl)) fun _ => ?_
    refine follows_moving (follows_ignore (follows_recoverStatuses _))
      fun _ => ?_
    refine follows_moving (follows_ignore (follows_recoverStatuses _))
      fun _ => ?_
    exact follows_ignore (follows_recoverStaleDatabaseStatuses _)

theorem follows_start : EndsWell (.boot .fresh) start := by
  refine protocol.follows_bind.mpr ⟨Or.inr .swapStarted, fun already => ?_⟩
  cases already with
  | true => rfl
  | false =>
    refine follows_moving follows_recoverStaleDeployments fun _ => ?_
    refine follows_quiet_bind (Program.only_perform rfl) rfl fun _ => ?_
    refine ⟨Or.inr .launch, fun _ => ?_⟩
    exact endsWell_of_reached (Quiet.stays quiet_notify rfl) rfl

theorem follows_semaphoreFor (server : ServerKey) :
    protocol.Follows (.dispatcher .scanning) (semaphoreFor server)
      fun semaphore reached =>
        reached = .dispatcher (.offered server semaphore) := by
  refine ⟨Or.inr (.slotGet server), fun slot => ?_⟩
  cases slot with
  | some semaphore => rfl
  | none => exact ⟨Or.inr (.slotInsert server), fun _ => rfl⟩

theorem follows_dispatchOne (entry : Int × ServerKey) :
    protocol.Follows (.dispatcher .scanning) (dispatchOne entry)
      fun _ reached => reached = .dispatcher .scanning := by
  refine protocol.follows_bind.mpr
    ((follows_semaphoreFor entry.2).weaken ?_)
  rintro semaphore reached rfl
  refine ⟨Or.inr (.tryAcquire entry.2 semaphore), fun acquired => ?_⟩
  cases acquired with
  | false => rfl
  | true =>
    refine ⟨Or.inr (.claim entry.2 semaphore entry.1), fun outcome => ?_⟩
    rcases outcome with _ | _ | claim
    · exact ⟨Or.inr (.giveBack entry.2 semaphore), fun _ => rfl⟩
    · exact ⟨Or.inr (.giveBack entry.2 semaphore), fun _ => rfl⟩
    · exact ⟨Or.inr (.hand claim entry.2 semaphore), fun _ => rfl⟩

theorem follows_dispatchAvailable :
    protocol.Follows (.dispatcher .scanning) dispatchAvailable
      fun _ reached => reached = .dispatcher .scanning := by
  refine follows_quiet_bind quiet_resolved rfl fun found => ?_
  cases found with
  | error _ => rfl
  | ok _ =>
    refine follows_quiet_bind (quiet_read _) rfl fun queued => ?_
    cases queued with
    | error _ => rfl
    | ok queued =>
      exact protocol.follows_forEach fun entry _ =>
        follows_dispatchOne entry

theorem follows_dispatchLoop : EndsWell (.dispatcher .waiting) dispatchLoop := by
  refine protocol.follows_bind.mpr ⟨Or.inr .wake, fun _ => ?_⟩
  refine follows_moving follows_dispatchAvailable fun _ => ?_
  exact ⟨Or.inr .loop, fun _ => rfl⟩

theorem follows_release (worker : Worker) {phase : WorkerPhase}
    (finished : phase = .settled ∨ phase = .handled ∨ phase = .abandoned) :
    EndsWell (.worker worker phase) (release worker.semaphore) := by
  refine ⟨Or.inr (.release worker finished), fun _ => ?_⟩
  rcases finished with rfl | rfl | rfl <;> exact ⟨Or.inl rfl, fun _ => rfl⟩

theorem follows_process (worker : Worker) :
    protocol.Follows (.worker worker .running) (process worker.claim)
      fun _ reached => reached = .worker worker .settled ∨
        reached = .worker worker .abandoned := by
  refine follows_quiet_bind (quiet_executeOperation worker.claim) rfl
    fun result => ?_
  refine protocol.follows_bind.mpr ⟨Or.inr (.executed worker _), fun _ => ?_⟩
  refine protocol.follows_bind.mpr ⟨Or.inl rfl, fun found => ?_⟩
  cases found with
  | error _ => exact Or.inr rfl
  | ok _ =>
    refine follows_moving (follows_ignore
      (follows_sql (Or.inr (.finalize worker _)) (fun _ => rfl)
        fun _ => rfl)) fun _ => ?_
    refine follows_quiet_bind
      (Program.Only.forEach (fun _ => quiet_memory rfl) _) rfl fun _ => ?_
    exact (Quiet.stays (quiet_notifyDeploymentFinished _) rfl).weaken
      fun _ _ same => Or.inl same

theorem follows_worker (work : Worker) :
    EndsWell (.worker work .running) (worker work.claim work.semaphore) := by
  refine protocol.follows_bind.mpr ((follows_process work).weaken ?_)
  rintro _ reached (rfl | rfl)
  · exact follows_release work (Or.inl rfl)
  · exact follows_release work (Or.inr (Or.inr rfl))

theorem follows_workerPanicked (work : Worker) :
    EndsWell (.worker work .handling)
      (workerPanicked work.claim work.semaphore) := by
  refine protocol.follows_bind.mpr ⟨Or.inl rfl, fun found => ?_⟩
  cases found with
  | error _ => exact follows_release work (Or.inr (Or.inr rfl))
  | ok _ =>
    refine follows_moving (follows_ignore
      (follows_sql (Or.inr (.panicFinalize work)) (fun _ => rfl)
        fun _ => rfl)) fun _ => ?_
    exact follows_release work (Or.inr (Or.inl rfl))

theorem endsWell_of_quiet {program : Action α}
    (quiet : Quiet program) : EndsWell .bystander program :=
  endsWell_of_reached (Quiet.stays quiet rfl) rfl

/-- Every task the panel creates follows the protocol of its role. -/
theorem machine_sound (config : Config) (schema : Schema) :
    (machine config schema).Sound where
  children op task created := by
    cases op with
    | spawn child =>
      obtain rfl := List.mem_singleton.mp created
      cases child with
      | worker claim server semaphore =>
        exact follows_worker ⟨claim, server, semaphore⟩
      | stopJob job => exact follows_stopJob config job
      | dispatchLoop => exact follows_dispatchLoop
      | retryStaleRemoteCleanup =>
        exact endsWell_of_quiet (quiet_retryStaleRemoteCleanup 20)
      | recordBuilderEvents deploymentId =>
        exact endsWell_of_quiet (quiet_recordBuilderEvents config deploymentId)
    | _ => cases created
  serve call := by
    cases call with
    | start => exact follows_start
    | runApplication id operation =>
      exact follows_answered
        (follows_runApplicationOperation config id operation)
    | runCompose id operation =>
      exact follows_answered (follows_runComposeOperation config id operation)
    | runDatabase kind id operation =>
      exact follows_answered
        (follows_runDatabaseOperation config kind id operation)
    | stopApplication id =>
      apply follows_answered
      apply (follows_stopApplication id).weaken
      rintro _ reached (rfl | ⟨rfl, _⟩) <;> rfl
    | stopCompose id =>
      apply follows_answered
      apply (follows_stopCompose id).weaken
      rintro _ reached (rfl | ⟨rfl, _⟩) <;> rfl
    | stopDatabase kind id =>
      exact follows_answered
        (endsWell_of_reached (follows_stopDatabase kind id) rfl)
    | cancel id =>
      apply follows_answered
      exact (follows_cancel id).weaken fun _ _ finished => finished.2
    | forceKillDeployment id =>
      exact follows_answered (follows_forceKillDeployment id)
    | forceKillCompose id =>
      apply follows_answered
      apply follows_findRunning
      · rfl
      · intro deployment
        exact (follows_cancel deployment.id).weaken
          fun _ _ finished => finished.2
    | cleanupApplicationQueue id =>
      exact follows_answered (follows_cleanupQueue (.application id))
    | cleanupComposeQueue id =>
      exact follows_answered (follows_cleanupQueue (.compose id))
    | cleanupDeploymentQueue =>
      exact follows_answered (endsWell_of_reached (follows_cleanup .all) rfl)
  unwind role task handled := by
    unfold machine unwind at handled
    dsimp only at handled
    split at handled
    all_goals first
      | cases handled
        exact follows_workerPanicked _
      | cases handled

end OpenOxide.Deployment
