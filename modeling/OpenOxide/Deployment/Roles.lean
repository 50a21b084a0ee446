import OpenOxide.Concurrency.Pool
import OpenOxide.Deployment.Services

/-!
# The roles of the panel's tasks

Every task of the panel plays a role, and the phase of the role records the
part of the task's past that matters to others: which semaphore the
dispatcher holds a permit of, whether a worker has run its finalising
transaction, what a cancellation has read.  `Move` lists the operations that
matter under each role; any task may perform the harmless ones.

`machine` puts the pieces together: the meaning of the operations, the tasks
that calls and spawns create, and the panic handler of a worker.
-/

namespace OpenOxide.Deployment

open Concurrency

/-- Where the start of the panel is. -/
inductive BootPhase where
  | fresh
  | recovering
  | launched
  | skipped
deriving DecidableEq

/-- Where the dispatch loop is. -/
inductive DispatcherPhase where
  | waiting
  | scanning
  | missing (server : ServerKey)
  | offered (server : ServerKey) (semaphore : Nat)
  | holding (server : ServerKey) (semaphore : Nat)
  | claimed (claim : DeploymentClaim) (server : ServerKey) (semaphore : Nat)
  | closed
deriving DecidableEq

/-- What a worker was handed: a claimed row and a permit. -/
structure Worker where
  claim : DeploymentClaim
  server : ServerKey
  semaphore : Nat
deriving DecidableEq

/-- `settled` and `handled` follow the finalising transaction of the worker
and of its panic handler; `abandoned` is a worker that could not resolve the
repository and skips the transaction. -/
inductive WorkerPhase where
  | running
  | deciding
  | settled
  | handling
  | handled
  | abandoned
  | released
deriving DecidableEq

/-- Phases of the calls that queue or stop a resource. -/
inductive ServicePhase where
  | asking
  | marked
  | inserted (deploymentId : Int)
  | stopping
  | closed
deriving DecidableEq

/-- Where a cancellation is. -/
inductive CancelPhase where
  | asking
  | sawQueued
  | sawRunning
  | requested
  | inactive
  | closed
deriving DecidableEq

/-- What a task is for, and where it is. -/
inductive Role where
  | boot (phase : BootPhase)
  | dispatcher (phase : DispatcherPhase)
  | worker (worker : Worker) (phase : WorkerPhase)
  | service (key : ResourceKey) (phase : ServicePhase)
  | stopJob (key : ResourceKey) (status : ResourceStatus) (finished : Bool)
  | killer (selector : Selector)
  | canceller (deploymentId : Int) (phase : CancelPhase)
  | cleaner (selector : Selector)
  | bystander
deriving DecidableEq

/-- Operations that any task may perform: they change no deployment status,
no resource status, no semaphore and no flag. -/
def harmless : Op → Bool
  | .sql (.read _) => true
  | .sql (.update statement) => statement.status.isNone
  | .sql (.createServerManagement _) => true
  | .sql _ => false
  | .memory .swapStarted => false
  | .memory (.slotGet _) => false
  | .memory (.slotInsert _) => false
  | .memory (.tryAcquire _) => false
  | .memory (.dropPermit _) => false
  | .memory .notified => false
  | .memory _ => true
  | .outside _ => true
  | .spawn .retryStaleRemoteCleanup => true
  | .spawn (.recordBuilderEvents _) => true
  | .spawn _ => false
  | .executed _ _ => false
  | .cancelReturns _ _ => false

/-- The request to cancel that the stop path of the resource records in the
deployment status; compose projects have none. -/
def ResourceKey.requestCancel : ResourceKey → Option DeploymentUpdate
  | .application id => some (requestCancelDeployment id)
  | .compose _ => none
  | .database _ id => some (requestCancelDatabaseDeployment id)

/-- The operations that matter, under the roles that perform them. -/
inductive Move : Role → Op → Prop where
  | swapStarted : Move (.boot .fresh) (.memory .swapStarted)
  | recoverDeployments :
      Move (.boot .recovering) (.sql (.update markInterruptedAsRecovered))
  | recoverStatuses (family : ResourceFamily) :
      Move (.boot .recovering) (.sql (.recoverStaleStatuses family))
  | launch : Move (.boot .recovering) (.spawn .dispatchLoop)
  | wake : Move (.dispatcher .waiting) (.memory .notified)
  | slotGet (server : ServerKey) :
      Move (.dispatcher .scanning) (.memory (.slotGet server))
  | slotInsert (server : ServerKey) :
      Move (.dispatcher (.missing server)) (.memory (.slotInsert server))
  | tryAcquire (server : ServerKey) (semaphore : Nat) :
      Move (.dispatcher (.offered server semaphore))
        (.memory (.tryAcquire semaphore))
  | claim (server : ServerKey) (semaphore : Nat) (id : Int) :
      Move (.dispatcher (.holding server semaphore))
        (.sql (.claimQueuedDeployment id))
  | giveBack (server : ServerKey) (semaphore : Nat) :
      Move (.dispatcher (.holding server semaphore))
        (.memory (.dropPermit semaphore))
  | hand (claim : DeploymentClaim) (server : ServerKey) (semaphore : Nat) :
      Move (.dispatcher (.claimed claim server semaphore))
        (.spawn (.worker claim server semaphore))
  | loop : Move (.dispatcher .scanning) (.spawn .dispatchLoop)
  | executed (worker : Worker) (error : Option String) :
      Move (.worker worker .running) (.executed worker.claim.id error)
  | finalize (worker : Worker) (error : Option String) :
      Move (.worker worker .deciding)
        (.sql (.finalizeWithResource (worker.claim.finalization error)))
  | panicFinalize (worker : Worker) :
      Move (.worker worker .handling)
        (.sql (.finalizeWithResource worker.claim.panicFinalization))
  | release (worker : Worker) {phase : WorkerPhase}
      (finished : phase = .settled ∨ phase = .handled ∨ phase = .abandoned) :
      Move (.worker worker phase) (.memory (.dropPermit worker.semaphore))
  | markStarting (kind : DatabaseKind) (id : Int) :
      Move (.service (.database kind id) .asking)
        (.sql (.updateStatus (.database kind id) .starting))
  | markStopping (key : ResourceKey) (building : Bool) :
      Move (.service key .asking)
        (.sql (.updateStatus key (stopStatuses building).1))
  | create (new : NewDeployment) {phase : ServicePhase}
      (unborn : phase = .asking ∧ (∀ kind id, new.key ≠ .database kind id) ∨
        phase = .marked) :
      Move (.service new.key phase) (.sql (.createQueued new))
  | announce (key : ResourceKey) (deploymentId : Int)
      {status : ResourceStatus}
      (transitional : status = .starting ∨ status = .stopping) :
      Move (.service key (.inserted deploymentId))
        (.sql (.updateStatus key status))
  | cancelQueue (key : ResourceKey) :
      Move (.service key .stopping) (.sql (.update (cancelQueued key.selector)))
  | requestCancel (key : ResourceKey) {statement : DeploymentUpdate}
      (requests : key.requestCancel = some statement) :
      Move (.service key .stopping) (.sql (.update statement))
  | spawnStop (job : StopJob) :
      Move (.service job.key .stopping) (.spawn (.stopJob job))
  | finishStop (key : ResourceKey) (status : ResourceStatus) :
      Move (.stopJob key status false) (.sql (.updateStatus key status))
  | cancelDeployment (id : Int) :
      Move (.canceller id .sawQueued)
        (.sql (.update (cancelQueuedDeployment id)))
  | requestDeployment (id : Int) :
      Move (.canceller id .sawRunning)
        (.sql (.update (setCancelRequested id)))
  | confirm (id : Int) :
      Move (.canceller id .requested) (.cancelReturns id .cancelRequested)
  | decline (id : Int) {phase : CancelPhase}
      {result : CancelDeploymentResult} (refused : result ≠ .cancelRequested) :
      Move (.canceller id phase) (.cancelReturns id result)
  | forceKill (id applicationId : Int) :
      Move (.canceller id .inactive)
        (.sql (.finalizeWithResource (forceKillFinalization applicationId id)))
  | cleanup (selector : Selector) :
      Move (.cleaner selector) (.sql (.update (cancelQueued selector)))

/-- The phase after an answer; operations that say nothing keep it. -/
def advance : Role → (op : Op) → op.Answer → Role
  | .boot .fresh, .memory .swapStarted, already =>
    .boot (cond already .skipped .recovering)
  | .boot .recovering, .spawn .dispatchLoop, _ => .boot .launched
  | .dispatcher .waiting, .memory .notified, _ => .dispatcher .scanning
  | .dispatcher .scanning, .memory (.slotGet server), slot =>
    .dispatcher (Option.elim (slot : Option Nat) (.missing server)
      (.offered server))
  | .dispatcher (.missing server), .memory (.slotInsert _), semaphore =>
    .dispatcher (.offered server semaphore)
  | .dispatcher (.offered server semaphore), .memory (.tryAcquire _),
      acquired =>
      .dispatcher (cond acquired (.holding server semaphore) .scanning)
  | .dispatcher (.holding server semaphore), .sql (.claimQueuedDeployment _),
      claimed =>
      match (claimed : Except SqlError (Option DeploymentClaim)) with
      | .ok (some claim) => .dispatcher (.claimed claim server semaphore)
      | _ => .dispatcher (.holding server semaphore)
  | .dispatcher (.holding _ _), .memory (.dropPermit _), _ =>
    .dispatcher .scanning
  | .dispatcher (.claimed _ _ _), .spawn (.worker _ _ _), _ =>
    .dispatcher .scanning
  | .dispatcher .scanning, .spawn .dispatchLoop, _ => .dispatcher .closed
  | .worker worker .running, .executed _ _, _ => .worker worker .deciding
  | .worker worker .deciding, .outside .resolve, answer =>
    match (answer : Except String Unit) with
    | .ok () => .worker worker .deciding
    | .error _ => .worker worker .abandoned
  | .worker worker .handling, .outside .resolve, answer =>
    match (answer : Except String Unit) with
    | .ok () => .worker worker .handling
    | .error _ => .worker worker .abandoned
  | .worker worker .deciding, .sql (.finalizeWithResource _), _ =>
    .worker worker .settled
  | .worker worker .handling, .sql (.finalizeWithResource _), _ =>
    .worker worker .handled
  | .worker worker _, .memory (.dropPermit _), _ => .worker worker .released
  | .service key .asking, .sql (.updateStatus _ status), answer =>
    match status with
    | .starting =>
      match (answer : Except SqlError Unit) with
      | .ok () => .service key .marked
      | .error _ => .service key .closed
    | _ => .service key .stopping
  | .service key (.inserted deploymentId), .sql (.createQueued _), _ =>
    .service key (.inserted deploymentId)
  | .service key _, .sql (.createQueued _), answer =>
    match (answer : Except SqlError Int) with
    | .ok deploymentId => .service key (.inserted deploymentId)
    | .error _ => .service key .closed
  | .service key .stopping, .spawn (.stopJob _), _ => .service key .closed
  | .stopJob key status _, .sql (.updateStatus _ _), _ =>
    .stopJob key status true
  | .killer selector, .sql (.read (.running _)), answer =>
    match (answer : Except SqlError (Option RunningDeployment)) with
    | .ok (some deployment) => .canceller deployment.id .asking
    | _ => .killer selector
  | .canceller id .asking, .sql (.read (.cancelInfo _)), answer =>
    match (answer : Except SqlError (Option (Target × DeploymentStatus))) with
    | .ok (some (_, .queued)) => .canceller id .sawQueued
    | .ok (some (_, .running)) => .canceller id .sawRunning
    | _ => .canceller id .asking
  | .canceller id .sawQueued, .sql (.update statement), answer =>
    match statement.status, (answer : Except SqlError Nat) with
    | none, _ => .canceller id .sawQueued
    | some _, .ok _ => .canceller id .requested
    | some _, .error _ => .canceller id .closed
  | .canceller id .sawRunning, .sql (.update statement), answer =>
    match statement.status, (answer : Except SqlError Nat) with
    | none, _ => .canceller id .sawRunning
    | some _, .ok _ => .canceller id .requested
    | some _, .error _ => .canceller id .closed
  | .canceller id _, .cancelReturns _ result, _ =>
    match result with
    | .notActiveInThisProcess => .canceller id .inactive
    | _ => .canceller id .closed
  | role, _, _ => role

/-- Roles under which a task may end. -/
def ended : Role → Bool
  | .boot .launched => true
  | .boot .skipped => true
  | .boot _ => false
  | .dispatcher .closed => true
  | .dispatcher _ => false
  | .worker _ .released => true
  | .worker _ _ => false
  | .service _ .marked => false
  | .service _ .stopping => false
  | .service _ _ => true
  | .stopJob _ _ finished => finished
  | _ => true

def protocol : Protocol Op Op.Answer Role where
  allows role op := harmless op = true ∨ Move role op
  advance := advance

/-- The calls that start tasks. -/
inductive Call where
  | start
  | runApplication (id : Int) (operation : ApplicationOperation)
  | runCompose (id : Int) (operation : ServiceOperation)
  | runDatabase (kind : DatabaseKind) (id : Int) (operation : ServiceOperation)
  | stopApplication (id : Int)
  | stopCompose (id : Int)
  | stopDatabase (kind : DatabaseKind) (id : Int)
  | cancel (deploymentId : Int)
  | forceKillDeployment (id : Int)
  | forceKillCompose (id : Int)
  | cleanupApplicationQueue (id : Int)
  | cleanupComposeQueue (id : Int)
  | cleanupDeploymentQueue

abbrev PanelTask := Task Op Op.Answer Role
abbrev PanelPool := Pool Op Op.Answer Panel Role
abbrev PanelView := View Op Op.Answer Panel Role
abbrev PanelGuard := Guard Op Op.Answer Panel Input Role Call

/-- The result of a call goes to its caller. -/
def answered {α : Type} (action : Action α) : Action Unit := do
  let _ ← action
  pure ()

/-- The role in which a call starts. -/
def Call.role : Call → Role
  | .start => .boot .fresh
  | .runApplication id _ | .stopApplication id =>
    .service (.application id) .asking
  | .runCompose id _ | .stopCompose id => .service (.compose id) .asking
  | .runDatabase kind id _ | .stopDatabase kind id =>
    .service (.database kind id) .asking
  | .cancel deploymentId => .canceller deploymentId .asking
  | .forceKillDeployment id => .killer (.application id)
  | .forceKillCompose id => .killer (.compose id)
  | .cleanupApplicationQueue id => .cleaner (.application id)
  | .cleanupComposeQueue id => .cleaner (.compose id)
  | .cleanupDeploymentQueue => .cleaner .all

def Call.code (config : Config) : Call → Action Unit
  | .start => Deployment.start
  | .runApplication id operation =>
    answered (runApplicationOperation config id operation).run
  | .runCompose id operation =>
    answered (runComposeOperation config id operation).run
  | .runDatabase kind id operation =>
    answered (runDatabaseOperation config kind id operation).run
  | .stopApplication id => answered (Deployment.stopApplication id)
  | .stopCompose id => answered (Deployment.stopCompose id)
  | .stopDatabase kind id => answered (Deployment.stopDatabase kind id)
  | .cancel deploymentId => answered (Deployment.cancel deploymentId).run
  | .forceKillDeployment id => answered (Deployment.forceKillDeployment id).run
  | .forceKillCompose id => answered (Deployment.forceKillCompose id).run
  | .cleanupApplicationQueue id =>
    answered (Deployment.cleanupApplicationQueue id).run
  | .cleanupComposeQueue id => answered (Deployment.cleanupComposeQueue id).run
  | .cleanupDeploymentQueue => answered cleanupAllQueues.run

def serve (config : Config) (call : Call) : PanelTask :=
  ⟨call.role, call.code config⟩

/-- The role in which a spawned task starts. -/
def Spawn.role : Spawn → Role
  | .worker claim server semaphore =>
    .worker ⟨claim, server, semaphore⟩ .running
  | .stopJob job => .stopJob job.key job.finalStatus false
  | .dispatchLoop => .dispatcher .waiting
  | .retryStaleRemoteCleanup | .recordBuilderEvents _ => .bystander

def Spawn.code (config : Config) : Spawn → Action Unit
  | .worker claim _ semaphore => Deployment.worker claim semaphore
  | .stopJob job => Deployment.stopJob config job
  | .dispatchLoop => Deployment.dispatchLoop
  | .retryStaleRemoteCleanup => Deployment.retryStaleRemoteCleanup 20
  | .recordBuilderEvents deploymentId =>
    Deployment.recordBuilderEvents config deploymentId

def spawned (config : Config) (child : Spawn) : PanelTask :=
  ⟨child.role, child.code config⟩

/-- The roles of the tasks that an operation spawns. -/
def Op.born : Op → List Role
  | .spawn child => [child.role]
  | _ => []

/-- `catch_unwind` surrounds `process` and nothing else of a worker. -/
def unwind : Role → Option PanelTask
  | .worker worker .running | .worker worker .deciding
  | .worker worker .settled =>
    some ⟨.worker worker .handling,
      workerPanicked worker.claim worker.semaphore⟩
  | _ => none

/-- The passage of time and the interval that wakes the dispatcher. -/
inductive Signal where
  | clock
  | interval

def Panel.signal : Signal → Panel → Panel
  | .clock, panel =>
    { panel with
      database := { panel.database with now := panel.database.now + 1 } }
  | .interval, panel =>
    { panel with memory := { panel.memory with permit := true } }

/-- A restart keeps the database and nothing else. -/
def Panel.restart (panel : Panel) : Panel :=
  { panel with memory := Memory.fresh }

def machine (config : Config) (schema : Schema) :
    Machine Op Op.Answer Panel Input Role Call Signal where
  protocol := protocol
  ready := Panel.ready
  exec := Panel.exec config schema
  children
    | .spawn child => [spawned config child]
    | _ => []
  serve := serve config
  unwind := unwind
  signal := Panel.signal
  restart := Panel.restart
  ended role := ended role = true

end OpenOxide.Deployment
