import Mathlib.Logic.Function.Basic
import OpenOxide.Concurrency.Program
import OpenOxide.Deployment.Statements

/-!
# The atomic operations of the panel

A task of the panel touches shared state through SQL statements and through
the in-memory structures of the process: the builder queue's semaphores and
wake-up permit, and the map of cancellation tokens.  Everything else it asks
for (dependency resolution, remote executors, Docker, the build pipeline) is
answered from outside and supplied by the run.

A fault makes one statement or one outside request fail; a failed statement
leaves the database as it was.
-/

namespace OpenOxide.Deployment

open Concurrency

abbrev ServerKey := Option Int

/-- The environment variables the queue reads, parsed, the base directory of
the panel's files, and the Unicode lower-casing of the standard library. -/
structure Config where
  deploymentPerServerConcurrency : Option Nat
  deploymentQueueMaxSize : Option Int
  base : String
  toLowercase : String → String

namespace Config

def perServerLimit (config : Config) : Nat :=
  (config.deploymentPerServerConcurrency.getD 1).max 1

def maxSize (config : Config) : Int :=
  max (config.deploymentQueueMaxSize.getD 100) 1

def deploymentLogs (config : Config) : String :=
  config.base ++ "/logs/deployments"

def deploymentLogFile (config : Config) (deploymentId : Int) : String :=
  config.deploymentLogs ++ "/" ++ toString deploymentId ++ ".log"

end Config

/-- The state of the process.  Semaphores and tokens have identities: a slot
refers to a semaphore, and a map entry to the token its deployment polls. -/
structure Memory where
  started : Bool
  permit : Bool
  slots : ServerKey → Option Nat
  available : Nat → Nat
  nextSemaphore : Nat
  tokens : IdType → Option Nat
  cancelled : Nat → Bool
  nextToken : Nat

/-- A freshly started process. -/
def Memory.fresh : Memory where
  started := false
  permit := false
  slots _ := none
  available _ := 0
  nextSemaphore := 0
  tokens _ := none
  cancelled _ := false
  nextToken := 0

structure Panel where
  database : Database
  memory : Memory

/-- The operations on the memory of the process. -/
inductive MemoryOp where
  | swapStarted
  | slotGet (key : ServerKey)
  | slotInsert (key : ServerKey)
  | tryAcquire (semaphore : Nat)
  | dropPermit (semaphore : Nat)
  | notify
  | notified
  | resetDefault (key : IdType)
  | cancellationToken (key : IdType)
  | newToken
  | isCancelled (token : Nat)
  | removeState (key : IdType)
  | cancelById (key : IdType)
deriving DecidableEq

@[reducible] def MemoryOp.Answer : MemoryOp → Type
  | .swapStarted => Bool
  | .slotGet _ => Option Nat
  | .slotInsert _ => Nat
  | .tryAcquire _ => Bool
  | .cancellationToken _ => Option Nat
  | .newToken => Nat
  | .isCancelled _ => Bool
  | .cancelById _ => Bool
  | .dropPermit _ | .notify | .notified | .resetDefault _
  | .removeState _ => Unit

namespace Memory

def perform (config : Config) (memory : Memory) :
    (op : MemoryOp) → Memory × op.Answer
  | .swapStarted => ({ memory with started := true }, memory.started)
  | .slotGet key => (memory, memory.slots key)
  | .slotInsert key =>
    ({ memory with
        slots := Function.update memory.slots key (some memory.nextSemaphore)
        available := Function.update memory.available memory.nextSemaphore
          config.perServerLimit
        nextSemaphore := memory.nextSemaphore + 1 },
      memory.nextSemaphore)
  | .tryAcquire semaphore =>
    match memory.available semaphore with
    | 0 => (memory, false)
    | left + 1 =>
      ({ memory with
          available := Function.update memory.available semaphore left },
        true)
  | .dropPermit semaphore =>
    ({ memory with
        available := Function.update memory.available semaphore
          (memory.available semaphore + 1) },
      ())
  | .notify => ({ memory with permit := true }, ())
  | .notified => ({ memory with permit := false }, ())
  | .resetDefault key =>
    ({ memory with
        tokens := Function.update memory.tokens key (some memory.nextToken)
        nextToken := memory.nextToken + 1 },
      ())
  | .cancellationToken key => (memory, memory.tokens key)
  | .newToken =>
    ({ memory with nextToken := memory.nextToken + 1 }, memory.nextToken)
  | .isCancelled token => (memory, memory.cancelled token)
  | .removeState key =>
    ({ memory with tokens := Function.update memory.tokens key none }, ())
  | .cancelById key =>
    match memory.tokens key with
    | some token =>
      ({ memory with
          cancelled := Function.update memory.cancelled token true },
        true)
    | none => (memory, false)

end Memory

/-- The progress that a builder reports. -/
inductive BuilderEvent where
  | preparing
  | sourceReady
  | building
  | imageReady
  | deploying
  | routing
  | healthCheck
  | deployed
  | cancelled
  | message (text : String)
  | failed (error : String)
  | recoverAfterRestart

def builderEventState : BuilderEvent → DeploymentState
  | .preparing => .preparing
  | .sourceReady => .sourceReady
  | .building => .building
  | .imageReady => .imageReady
  | .deploying => .deploying
  | .routing => .routing
  | .healthCheck => .healthCheck
  | .deployed => .deployed
  | .cancelled => .cancelled
  | .message _ => .message
  | .failed _ => .failed
  | .recoverAfterRestart => .recoverAfterRestart

/-- Where a Docker command runs. -/
inductive Host where
  | localhost
  | remote (serverId : Int)
deriving DecidableEq

/-- The Docker commands of the stop paths. -/
inductive DockerCommand where
  | stackRemove (name : String)
  | composeDown (project : String)
  | serviceList
  | serviceListNamed (filter : String)
  | serviceScaleToZero (name : String)
  | containerStop (name : String)
deriving DecidableEq

/-- One line of a service listing. -/
structure ServiceEntry where
  name : String
  replicas : String

/-- Requests that are answered from outside the modelled state. -/
inductive Outside where
  | resolve
  | loadSpec (key : ResourceKey)
  | remoteExecutor (serverId : Int)
  | killPidFile (serverId : Int) (path : String)
  | build
  | rounds
  | event
  | docker (host : Host) (command : DockerCommand)
  | sendNotification
deriving DecidableEq

@[reducible] def Outside.Answer : Outside → Type
  | .rounds => Nat
  | .event => BuilderEvent
  | .docker _ _ => Except String (List ServiceEntry)
  | .sendNotification => Unit
  | .resolve | .loadSpec _ | .remoteExecutor _ | .killPidFile _ _
  | .build => Except String Unit

/-- What the run supplies at one operation. -/
inductive Input where
  | normal
  | fault (message : String)
  | count (value : Nat)
  | services (entries : List ServiceEntry)
  | event (value : BuilderEvent)

namespace Input

def unit : Input → Except String Unit
  | .fault message => .error message
  | _ => .ok ()

def number : Input → Nat
  | .count value => value
  | _ => 0

def builderEvent : Input → BuilderEvent
  | .event value => value
  | _ => .deployed

def listing : Input → Except String (List ServiceEntry)
  | .fault message => .error message
  | .services entries => .ok entries
  | _ => .ok []

def answer (input : Input) : (request : Outside) → request.Answer
  | .rounds => input.number
  | .event => input.builderEvent
  | .docker _ _ => input.listing
  | .sendNotification => ()
  | .resolve | .loadSpec _ | .remoteExecutor _ | .killPidFile _ _
  | .build => input.unit

end Input

/-- The state a spawned stop task captures. -/
structure StopJob where
  key : ResourceKey
  record : Option Resource
  finalStatus : ResourceStatus
deriving DecidableEq

/-- The tasks that `tokio::spawn` starts. -/
inductive Spawn where
  | worker (claim : DeploymentClaim) (server : ServerKey) (semaphore : Nat)
  | stopJob (job : StopJob)
  | dispatchLoop
  | retryStaleRemoteCleanup
  | recordBuilderEvents (deploymentId : Int)
deriving DecidableEq

/-- The answer to a cancellation. -/
inductive CancelDeploymentResult where
  | cancelRequested
  | notRunning
  | notCancellable
  | notActiveInThisProcess
deriving DecidableEq

/-- The operations of the panel.  `executed` marks the point at which a
worker knows the outcome of its build, and `cancelReturns` the return of
`DeploymentService::cancel`; neither touches the state. -/
inductive Op where
  | sql (query : Query)
  | memory (op : MemoryOp)
  | outside (request : Outside)
  | spawn (child : Spawn)
  | executed (deploymentId : Int) (error : Option String)
  | cancelReturns (deploymentId : Int) (result : CancelDeploymentResult)
deriving DecidableEq

@[reducible] def Op.Answer : Op → Type
  | .sql query => Except SqlError query.Answer
  | .memory op => op.Answer
  | .outside request => request.Answer
  | .spawn _ => Unit
  | .executed _ _ => Unit
  | .cancelReturns _ _ => Unit

/-- A statement under an outside input: a fault or a violated constraint
leaves the database unchanged. -/
def Database.attempt (schema : Schema) (database : Database) (query : Query)
    (input : Input) : Database × Except SqlError query.Answer :=
  match input with
  | .fault message => (database, .error (.protocol message))
  | _ =>
    match database.execute schema query with
    | .ok (next, answer) => (next, .ok answer)
    | .error error => (database, .error error)

def Panel.exec (config : Config) (schema : Schema) :
    (op : Op) → Input → Panel → Panel × op.Answer
  | .sql query, input, panel =>
    let (database, answer) := panel.database.attempt schema query input
    ({ panel with database }, answer)
  | .memory op, _, panel =>
    let (memory, answer) := panel.memory.perform config op
    ({ panel with memory }, answer)
  | .outside request, input, panel => (panel, input.answer request)
  | .spawn _, _, panel => (panel, ())
  | .executed _ _, _, panel => (panel, ())
  | .cancelReturns _ _, _, panel => (panel, ())

/-- Waiting for a wake-up is the only operation that can block. -/
def Panel.ready (op : Op) (panel : Panel) : Bool :=
  match op with
  | .memory .notified => panel.memory.permit
  | _ => true

/-- A statement either fails and changes nothing, or succeeds. -/
theorem Database.attempt_cases (schema : Schema) (database : Database)
    (query : Query) (input : Input) :
    (∃ error, database.attempt schema query input = (database, .error error)) ∨
      ∃ next answer, database.attempt schema query input =
          (next, .ok answer) ∧
        database.execute schema query = .ok (next, answer) := by
  have normally :
      (∃ error, (match database.execute schema query with
          | .ok (next, answer) => (next, Except.ok answer)
          | .error error => (database, .error error)) =
        (database, .error error)) ∨
      ∃ next answer, (match database.execute schema query with
          | .ok (next, answer) => (next, Except.ok answer)
          | .error error => (database, .error error)) = (next, .ok answer) ∧
        database.execute schema query = .ok (next, answer) := by
    cases outcome : database.execute schema query with
    | error error => exact Or.inl ⟨error, rfl⟩
    | ok result => exact Or.inr ⟨result.1, result.2, rfl, rfl⟩
  cases input with
  | fault message => exact Or.inl ⟨_, rfl⟩
  | _ => exact normally

theorem Database.attempt_induction {schema : Schema} {database : Database}
    {query : Query} {input : Input} (Holds : Database → Prop)
    (same : Holds database)
    (executed : ∀ next answer,
      database.execute schema query = .ok (next, answer) → Holds next) :
    Holds (database.attempt schema query input).1 := by
  rcases database.attempt_cases schema query input with
    ⟨error, failed⟩ | ⟨next, answer, attempted, succeeded⟩
  · rw [failed]
    exact same
  · rw [attempted]
    exact executed next answer succeeded

end OpenOxide.Deployment
