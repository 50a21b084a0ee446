import OpenOxide.Deployment.Types
import OpenOxide.Effects.Attempt
import OpenOxide.Exec.Command
import OpenOxide.Text.Strings

/-!
# Rolling an application back

`trigger_rollback` updates the swarm service of an application to the image and
the environment of a saved snapshot.  It adds the variables of the snapshot with
`--env-add` and removes none, so what the service has beyond them stays.

Statements of the panel's own database do not fail here.  The reading of the saved
context, the executor and docker answer from outside.
-/

namespace OpenOxide.Rollback

open Deployment Effects Exec Text

/-- The environment of a service.  A variable's name ends at the first `=` of
its definition. -/
structure ServiceEnvironment where
  values : String → Option String
  plain : ∀ name, values name ≠ none → '=' ∉ name.toList

/-- A service of the swarm. -/
structure Service where
  image : String
  environment : ServiceEnvironment
  forced : Nat

/-- The flags of `docker service update`. -/
inductive UpdateFlag where
  | image (value : String)
  | force
  | envAdd (definition : String)

/-- The flags of `docker service update` and the service it is for. -/
def readFlags : List String → Option (List UpdateFlag × String)
  | [] => none
  | [name] => if startsWith "-" name then none else some ([], name)
  | flag :: value :: rest =>
    if flag = "--force" then
      (readFlags (value :: rest)).map fun read =>
        (.force :: read.1, read.2)
    else if flag = "--image" then
      (readFlags rest).map fun read => (.image value :: read.1, read.2)
    else if flag = "--env-add" then
      (readFlags rest).map fun read => (.envAdd value :: read.1, read.2)
    else none

/-- Add a variable or replace its value. -/
def ServiceEnvironment.define (environment : ServiceEnvironment)
    (definition : String) : Option ServiceEnvironment :=
  match found : cut '=' definition.toList with
  | none => none
  | some ([], _) => none
  | some (letter :: letters, value) =>
    some
      { values := Function.update environment.values
          (String.ofList (letter :: letters)) (some (String.ofList value))
        plain := by
          intro name defined
          by_cases own : name = String.ofList (letter :: letters)
          · rw [own, String.toList_ofList]
            exact (cut_eq_some_iff.mp found).2
          · rw [Function.update_of_ne own] at defined
            exact environment.plain name defined }

def Service.apply (service : Service) : UpdateFlag → Option Service
  | .image image => some { service with image }
  | .force => some { service with forced := service.forced + 1 }
  | .envAdd definition =>
    (service.environment.define definition).map fun environment =>
      { service with environment }

def Service.applyAll (service : Service) : List UpdateFlag → Option Service
  | [] => some service
  | flag :: flags => (service.apply flag).bind fun next => next.applyAll flags

abbrev Swarm := String → Option Service

/-- `docker service update`. -/
def Swarm.update (swarm : Swarm) (args : List String) : Option Swarm :=
  match args with
  | "service" :: "update" :: flags => do
      let (flags, name) ← readFlags flags
      let service ← swarm name
      let updated ← service.applyAll flags
      pure (Function.update swarm name (some updated))
  | _ => none

/-- A map from names to values, in the order of the names. -/
structure Environment where
  entries : List (String × String)
  sorted : entries.Pairwise fun first second => first.1 < second.1

namespace Environment

def keys (environment : Environment) : List String :=
  environment.entries.map Prod.fst

def lookup (environment : Environment) (name : String) : Option String :=
  (environment.entries.find? fun entry => entry.1 == name).map Prod.snd

end Environment

/-- The part of an application's specification that a rollback uses. -/
structure ApplicationSpec where
  stackName : String
  appName : String
  environment : Environment

def ApplicationSpec.serviceName (spec : ApplicationSpec) : String :=
  spec.stackName ++ "_" ++ spec.appName

structure Application where
  id : Int
  name : String
  serverId : Option Int

/-- The columns of `deployments` that a rollback writes. -/
structure RollbackDeployment where
  id : Int
  title : String
  description : Option String
  status : DeploymentStatus
  state : DeploymentState
  logPath : String
  operation : String
  applicationId : Option Int
  serverId : Option Int
  errorMessage : Option String

structure RollbackRow where
  id : Int
  deploymentId : Int
  version : Int
  image : Option String
  fullContext : Option String

structure World where
  applications : List Application
  deployments : List RollbackDeployment
  nextId : Int
  rollbacks : List RollbackRow
  swarm : Swarm

/-- What answers from outside: the paths of the panel, the reading of a saved
context and the executor of the application's server.  Running docker through
the executor may fail, and docker words its own refusals. -/
structure Outside where
  deploymentLogFile : Int → String
  readContext : String → Except String ApplicationSpec
  executor : Except SqlError Unit
  docker : Except String Unit
  refusal : List String → String

structure TriggerResult where
  deploymentId : Int
  message : String
deriving DecidableEq

abbrev Call := Attempt World SqlError

def getById (id : Int) : Call Application := do
  let world ← Attempt.look
  Attempt.ofExcept <|
    match world.applications.find? fun row => row.id == id with
    | some application => .ok application
    | none => .error .rowNotFound

def World.hasRunningDeployment (world : World) (applicationId : Int) : Bool :=
  world.deployments.any fun row =>
    row.applicationId == some applicationId && row.status.active

/-- The rollback of that identifier, if its deployment belongs to the
application. -/
def World.getForApplication (world : World) (id applicationId : Int) :
    Option RollbackRow :=
  world.rollbacks.find? fun row => row.id == id &&
    world.deployments.any fun deployment =>
      deployment.id == row.deploymentId &&
        deployment.applicationId == some applicationId

def protocolError {α : Type} (message : String) : Except SqlError α :=
  .error (.protocol message)

variable (outside : Outside)

/-- The snapshot of a rollback and its image. -/
def readSnapshot (rollback : RollbackRow) :
    Except SqlError (String × ApplicationSpec) :=
  match rollback.image with
  | none => protocolError "rollback has no image"
  | some image =>
    match rollback.fullContext with
    | none => protocolError "rollback has no saved context"
    | some json =>
      match outside.readContext json with
      | .ok spec => .ok (image, spec)
      | .error error =>
        protocolError ("could not parse rollback context: " ++ error)

def createRunningDeployment (title : String) (description : Option String)
    (operation : String) (applicationId : Int) (serverId : Option Int) :
    Call Int := do
  let world ← Attempt.look
  Attempt.change fun world =>
    { world with
      deployments := world.deployments ++
        [{ id := world.nextId, title, description, status := .running,
           state := .running, logPath := "", operation,
           applicationId := some applicationId, serverId,
           errorMessage := none }]
      nextId := world.nextId + 1 }
  pure world.nextId

def World.changeDeployment (world : World) (id : Int)
    (change : RollbackDeployment → RollbackDeployment) : World :=
  { world with
    deployments := world.deployments.map fun row =>
      if row.id == id then change row else row }

def updateLogPath (id : Int) (logPath : String) : Call Unit :=
  Attempt.change fun world =>
    world.changeDeployment id fun row => { row with logPath }

def updateFinalStatus (id : Int) (status : DeploymentStatus)
    (errorMessage : Option String) : Call Unit :=
  Attempt.change fun world => world.changeDeployment id fun row =>
    { row with
      status
      state := status.asState
      errorMessage := errorMessage.or row.errorMessage }

/-- The arguments of the update: one `--env-add` for each variable. -/
def updateArgs (serviceName image : String) (environment : Environment) :
    ArgBuilder :=
  (environment.entries.foldl
    (fun args entry => args.pair "--env-add" (entry.1 ++ "=" ++ entry.2))
    (((ArgBuilder.cmd ["service", "update"]).pair "--image" image).flag
      "--force")).push serviceName

/-- One run of docker: a command that it refuses changes nothing. -/
def runDocker (args : List String) (swarm : Swarm) : Except String Swarm := do
  outside.docker
  match swarm.update args with
  | some updated => .ok updated
  | none => .error (outside.refusal args)

def updateService (args : ArgBuilder) : Call Unit := do
  Attempt.ofExcept outside.executor
  let world ← Attempt.look
  let swarm ← Attempt.ofExcept
    ((runDocker outside args.build world.swarm).mapError fun error =>
      .protocol ("rollback service update failed: " ++ error))
  Attempt.change fun world => { world with swarm }

/-- The end of a rollback, by the outcome of the update. -/
def conclude (deploymentId : Int) (message : String) :
    Except SqlError Unit → Call TriggerResult
  | .ok () => do
      updateFinalStatus deploymentId .done none
      pure ⟨deploymentId, message⟩
  | .error error => do
      updateFinalStatus deploymentId .error (some error.text)
      Attempt.ofExcept (.error error)

/-- The part of a rollback after its snapshot is found. -/
def rollBack (applicationId : Int)
    (application : Application) (rollback : RollbackRow) :
    Call TriggerResult := do
  let (image, spec) ← Attempt.ofExcept (readSnapshot outside rollback)
  let deploymentId ← createRunningDeployment "Application rollback"
    (some ("Rollback " ++ application.name ++ " to version " ++
      toString rollback.version)) "ROLLBACK" applicationId
    application.serverId
  updateLogPath deploymentId (outside.deploymentLogFile deploymentId)
  let outcome ← (updateService outside
    (updateArgs spec.serviceName image spec.environment)).outcome
  conclude deploymentId ("Rolled back " ++ spec.serviceName ++ " to version " ++
    toString rollback.version ++ " (image: " ++ image ++ ")") outcome

def rollBackFound (applicationId rollbackId : Int)
    (application : Application) : Option RollbackRow → Call TriggerResult
  | none => Attempt.ofExcept
      (protocolError ("rollback " ++ toString rollbackId ++ " not found"))
  | some rollback => rollBack outside applicationId application rollback

def triggerRollback (applicationId rollbackId : Int) : Call TriggerResult := do
  let application ← getById applicationId
  let world ← Attempt.look
  if world.hasRunningDeployment applicationId then
    Attempt.ofExcept
      (protocolError "application deployment is already queued or running")
  else
    rollBackFound outside applicationId rollbackId application
      (world.getForApplication rollbackId applicationId)

end OpenOxide.Rollback
