import OpenOxide.Concurrency.Extension
import OpenOxide.Deployment.Lifecycle

/-!
# Clearing the history

The calls that remove deployments and their logs: `DeploymentService::delete` and
`clear_all`, `clear_deployment_history` of the application service and
`clear_history` of the compose service.  They run beside the queue, on the same
table; the log files are the second part of the state.

What they take for finished is whatever is neither `QUEUED` nor `RUNNING`.
-/

namespace OpenOxide.Deployment

open Concurrency

/-- The columns `clear_all` can be narrowed to. -/
structure HistoryFilter where
  applicationId : Option Int
  composeId : Option Int
  databaseId : Option Int
  serverId : Option Int
deriving DecidableEq

namespace HistoryFilter

/-- The `WHERE` clause of the statements that select and delete history. -/
def finished (filter : HistoryFilter) (row : DeploymentRow) : Bool :=
  row.status != .queued && row.status != .running &&
    (filter.applicationId.all fun id => row.target.applicationId == some id) &&
    (filter.composeId.all fun id => row.target.composeId == some id) &&
    (filter.databaseId.all fun id => row.target.databaseId == some id) &&
    (filter.serverId.all fun id => row.serverId == some id)

def application (id : Int) : HistoryFilter :=
  ⟨some id, none, none, none⟩

def compose (id : Int) : HistoryFilter :=
  ⟨none, some id, none, none⟩

end HistoryFilter

/-- The operations of the history calls: statements on `deployments`, the log
files, and the point at which a call answers with a count. -/
inductive HistoryOp where
  | getById (id : Int)
  | delete (id : Int)
  | selectLogPaths (filter : HistoryFilter)
  | deleteFiltered (filter : HistoryFilter)
  | listFinishedIds (filter : HistoryFilter)
  | deleteFinished (filter : HistoryFilter)
  | pathExists (path : String)
  | removeFile (path : String)
  | returns (count : Nat)
deriving DecidableEq

@[reducible] def HistoryOp.Answer : HistoryOp → Type
  | .getById _ => Except SqlError (Option DeploymentRow)
  | .delete _ => Except SqlError Unit
  | .selectLogPaths _ => Except SqlError (List String)
  | .deleteFiltered _ => Except SqlError Nat
  | .listFinishedIds _ => Except SqlError (List Int)
  | .deleteFinished _ => Except SqlError Nat
  | .pathExists _ => Bool
  | .removeFile _ => Unit
  | .returns _ => Unit

/-- Which paths name a file. -/
abbrev Files := String → Bool

/-- `DELETE FROM deployments WHERE …`.  Identifiers are not used again. -/
def Database.deleteWhere (database : Database) (hits : DeploymentRow → Bool) :
    Database :=
  { database with
    deployments := database.deployments.filter fun row => !hits row }

/-- The rows a call selects to be removed. -/
def Database.finished (database : Database) (filter : HistoryFilter) :
    List DeploymentRow :=
  database.deployments.filter filter.finished

/-- A statement of the history under an outside input. -/
def Input.statement {α : Type} (input : Input) (state : Panel × Files)
    (database : Database) (answer : α) :
    (Panel × Files) × Except SqlError α :=
  match input with
  | .fault message => (state, .error (.protocol message))
  | _ => (({ state.1 with database }, state.2), .ok answer)

/-- The outcome of removing a file is ignored, so a fault leaves it there. -/
def Input.unlink (input : Input) (files : Files) (path : String) : Files :=
  match input with
  | .fault _ => files
  | _ => Function.update files path false

def historyExec : (op : HistoryOp) → Input → Panel × Files →
    (Panel × Files) × op.Answer
  | .getById id, input, state =>
    input.statement state state.1.database
      (state.1.database.deployments.find? fun row => row.id == id)
  | .delete id, input, state =>
    input.statement state
      (state.1.database.deleteWhere fun row => row.id == id) ()
  | .selectLogPaths filter, input, state =>
    input.statement state state.1.database
      ((state.1.database.finished filter).map DeploymentRow.logPath)
  | .deleteFiltered filter, input, state =>
    input.statement state (state.1.database.deleteWhere filter.finished)
      (state.1.database.finished filter).length
  | .listFinishedIds filter, input, state =>
    input.statement state state.1.database
      (((state.1.database.finished filter).map
        DeploymentRow.id).insertionSort (· ≤ ·))
  | .deleteFinished filter, input, state =>
    input.statement state (state.1.database.deleteWhere filter.finished)
      (state.1.database.finished filter).length
  | .pathExists path, _, state => (state, state.2 path)
  | .removeFile path, input, state =>
    ((state.1, input.unlink state.2 path), ())
  | .returns _, _, state => (state, ())

abbrev HistoryAction :=
  Program (Op ⊕ HistoryOp) (Both Op.Answer HistoryOp.Answer)

def history (op : HistoryOp) : HistoryAction op.Answer :=
  Program.perform (Sum.inr op)

/-- Remove a log file that has a name and is there. -/
def removeLog (logPath : String) : HistoryAction Unit :=
  if logPath = "" then pure ()
  else do
    match (← history (.pathExists logPath) : Bool) with
    | true => history (.removeFile logPath)
    | false => pure ()

/-- An unfinished deployment is asked to stop; nobody waits for it. -/
def cancelUnfinished (deployment : DeploymentRow) (id : Int) :
    HistoryAction Unit :=
  match deployment.status with
  | .queued | .running => do
      let _ ← (cancel id).run.embed
      pure ()
  | _ => pure ()

/-- The row goes first, then its log. -/
def removeDeployment (id : Int) (logPath : String) :
    ExceptT SqlError HistoryAction Bool := do
  ExceptT.mk (history (.delete id))
  ExceptT.lift (removeLog logPath)
  pure true

/-- `DeploymentService::delete`. -/
def deleteDeployment (id : Int) : ExceptT SqlError HistoryAction Bool := do
  let found : Option DeploymentRow ← ExceptT.mk (history (.getById id))
  match found with
  | none => pure false
  | some deployment => do
      ExceptT.lift (cancelUnfinished deployment id)
      removeDeployment id deployment.logPath

/-- `DeploymentService::clear_all`. -/
def clearAll (filter : HistoryFilter) : ExceptT SqlError HistoryAction Nat := do
  let logPaths : List String ←
    ExceptT.mk (history (.selectLogPaths filter))
  let _ ← ExceptT.mk (history (.deleteFiltered filter))
  ExceptT.lift (Program.forEach removeLog logPaths)
  ExceptT.lift (history (.returns logPaths.length))
  pure logPaths.length

/-- The statements and the clean-up that `clear_deployment_history` and
`clear_history` share. -/
def clearFinished (config : Config) (filter : HistoryFilter) :
    ExceptT SqlError HistoryAction Nat := do
  let deploymentIds : List Int ←
    ExceptT.mk (history (.listFinishedIds filter))
  let affected : Nat ← ExceptT.mk (history (.deleteFinished filter))
  ExceptT.lift (Program.forEach
    (fun id => history (.removeFile (config.deploymentLogFile id)))
    deploymentIds)
  ExceptT.lift (history (.returns affected))
  pure affected

def clearDeploymentHistory (config : Config) (id : Int) :
    ExceptT SqlError HistoryAction Nat := do
  let _ ← ExceptT.mk (getById (.application id)).run.embed
  clearFinished config (.application id)

def clearHistory (config : Config) (id : Int) :
    ExceptT SqlError HistoryAction Nat := do
  let _ ← ExceptT.mk (getById (.compose id)).run.embed
  clearFinished config (.compose id)

/-- What a call asks to have removed. -/
inductive HistoryRequest where
  | delete (id : Int)
  | clearAll (filter : HistoryFilter)
  | clearFinished (filter : HistoryFilter)

/-- How far a call has come.  `selected` lies between the `SELECT` and the
`DELETE`; `purging` has the count the call will answer with and the number of rows
that its statement has removed. -/
inductive HistoryStage where
  | idle
  | asking (request : HistoryRequest)
  | found (id : Int) (logPath : String)
  | selected (filter : HistoryFilter) (logPaths : List String)
      (counted : Bool)
  | purging (logPaths : List String) (count removed : Nat)
  | closed

namespace HistoryStage

/-- What a stage may do next. -/
inductive Allows : HistoryStage → HistoryOp → Prop where
  | getById (id : Int) : Allows (.asking (.delete id)) (.getById id)
  | select (filter : HistoryFilter) :
      Allows (.asking (.clearAll filter)) (.selectLogPaths filter)
  | list (filter : HistoryFilter) :
      Allows (.asking (.clearFinished filter)) (.listFinishedIds filter)
  | delete (id : Int) (logPath : String) :
      Allows (.found id logPath) (.delete id)
  | deleteFiltered (filter : HistoryFilter) (logPaths : List String) :
      Allows (.selected filter logPaths true) (.deleteFiltered filter)
  | deleteFinished (filter : HistoryFilter) (logPaths : List String) :
      Allows (.selected filter logPaths false) (.deleteFinished filter)
  | pathExists (logPaths : List String) (count removed : Nat)
      (path : String) :
      Allows (.purging logPaths count removed) (.pathExists path)
  | removeFile {logPaths : List String} (count removed : Nat)
      {path : String} (listed : path ∈ logPaths) :
      Allows (.purging logPaths count removed) (.removeFile path)
  | returns (logPaths : List String) (count removed : Nat) :
      Allows (.purging logPaths count removed) (.returns count)

def advance (config : Config) : HistoryStage → (op : HistoryOp) →
    op.Answer → HistoryStage
  | .asking (.delete id), .getById _, answer =>
    match (answer : Except SqlError (Option DeploymentRow)) with
    | .ok (some row) => .found id row.logPath
    | _ => .closed
  | .asking (.clearAll filter), .selectLogPaths _, answer =>
    match (answer : Except SqlError (List String)) with
    | .ok logPaths => .selected filter logPaths true
    | .error _ => .closed
  | .asking (.clearFinished filter), .listFinishedIds _, answer =>
    match (answer : Except SqlError (List Int)) with
    | .ok ids => .selected filter (ids.map config.deploymentLogFile) false
    | .error _ => .closed
  | .found _ logPath, .delete _, answer =>
    match (answer : Except SqlError Unit) with
    | .ok () => .purging [logPath] 0 0
    | .error _ => .closed
  | .selected _ logPaths true, .deleteFiltered _, answer =>
    match (answer : Except SqlError Nat) with
    | .ok removed => .purging logPaths logPaths.length removed
    | .error _ => .closed
  | .selected _ logPaths false, .deleteFinished _, answer =>
    match (answer : Except SqlError Nat) with
    | .ok removed => .purging logPaths removed removed
    | .error _ => .closed
  | stage, _, _ => stage

/-- The call is between its `SELECT` and its `DELETE`. -/
def clearing : HistoryStage → Bool
  | .selected _ _ _ => true
  | _ => false

end HistoryStage

/-- The calls of the service. -/
inductive HistoryCall where
  | delete (id : Int)
  | clearAll (filter : HistoryFilter)
  | clearDeploymentHistory (id : Int)
  | clearHistory (id : Int)

/-- The result of a call goes to its caller. -/
def historyAnswered {α : Type} (action : ExceptT SqlError HistoryAction α) :
    HistoryAction Unit := do
  let _ ← action.run
  pure ()

def historyServe (config : Config) :
    HistoryCall → Task (Op ⊕ HistoryOp) (Both Op.Answer HistoryOp.Answer)
      (Role × HistoryStage)
  | .delete id =>
    ⟨(.canceller id .asking, .asking (.delete id)),
      historyAnswered (deleteDeployment id)⟩
  | .clearAll filter =>
    ⟨(.bystander, .asking (.clearAll filter)),
      historyAnswered (Deployment.clearAll filter)⟩
  | .clearDeploymentHistory id =>
    ⟨(.bystander, .asking (.clearFinished (.application id))),
      historyAnswered (Deployment.clearDeploymentHistory config id)⟩
  | .clearHistory id =>
    ⟨(.bystander, .asking (.clearFinished (.compose id))),
      historyAnswered (Deployment.clearHistory config id)⟩

def historyExtension (config : Config) :
    Extension Op Op.Answer HistoryOp HistoryOp.Answer Panel Files Input Role
      HistoryStage HistoryCall where
  idle := .idle
  allows := HistoryStage.Allows
  advance := HistoryStage.advance config
  exec := historyExec
  serve := historyServe config

/-- The queue with the history calls beside it. -/
def historyMachine (config : Config) (schema : Schema) :=
  (machine config schema).extend (historyExtension config)

section Conformance

variable {config : Config} {schema : Schema} {role : Role}

abbrev historyProtocol (config : Config) (schema : Schema) :=
  (historyMachine config schema).protocol

theorem follows_removeLog {logPaths : List String} {count removed : Nat}
    {logPath : String} (listed : logPath ∈ logPaths) :
    (historyProtocol config schema).Follows
      (role, .purging logPaths count removed) (removeLog logPath)
      fun _ reached => reached = (role, .purging logPaths count removed) := by
  rw [removeLog]
  split
  · rfl
  · refine ⟨.pathExists _ _ _ _, fun found => ?_⟩
    cases found with
    | true => exact ⟨.removeFile _ _ listed, fun _ => rfl⟩
    | false => rfl

/-- `EndsWell` for the extended machine. -/
abbrev ClosesWell {α : Type} (config : Config) (schema : Schema)
    (label : Role × HistoryStage) (program : HistoryAction α) : Prop :=
  (historyProtocol config schema).Follows label program
    fun _ reached => ended reached.1 = true

theorem closes_answered {α : Type} {label : Role × HistoryStage}
    {action : ExceptT SqlError HistoryAction α}
    (closes : ClosesWell config schema label action.run) :
    ClosesWell config schema label (historyAnswered action) :=
  (historyProtocol config schema).follows_bind.mpr closes

theorem closes_removeDeployment {id : Int} {logPath : String}
    (hasEnded : ended role = true) :
    ClosesWell config schema (role, .found id logPath)
      (removeDeployment id logPath).run := by
  refine ⟨.delete _ _, fun deleted => ?_⟩
  cases deleted with
  | error failure => exact hasEnded
  | ok value =>
    refine (Protocol.follows_liftThen _).mpr ?_
    refine (follows_removeLog List.mem_cons_self).weaken ?_
    rintro _ reached rfl
    exact hasEnded

theorem closes_deleteDeployment (id : Int) :
    ClosesWell config schema (.canceller id .asking, .asking (.delete id))
      (deleteDeployment id).run := by
  refine ⟨.getById id, fun found => ?_⟩
  rcases found with failure | _ | deployment
  · rfl
  · rfl
  · refine (Protocol.follows_liftThen _).mpr ?_
    have cancelled : (historyProtocol config schema).Follows
        (.canceller id .asking, .found id deployment.logPath)
        (do
          let _ ← (cancel id).run.embed
          pure () : HistoryAction Unit)
        fun _ reached => ClosesWell config schema reached
          (removeDeployment id deployment.logPath).run := by
      refine (historyProtocol config schema).follows_bind.mpr
        ((Machine.follows_embed (follows_cancel id) _).weaken ?_)
      rintro _ ⟨reached, stage⟩ ⟨⟨_, hasEnded⟩, rfl⟩
      exact closes_removeDeployment hasEnded
    unfold cancelUnfinished
    split
    · exact cancelled
    · exact cancelled
    · exact closes_removeDeployment rfl

theorem closes_purge {α : Type} {logPaths : List String} {removed : Nat}
    {items : List α} {clean : α → HistoryAction Unit} (count : Nat)
    (hasEnded : ended role = true)
    (cleans : ∀ item ∈ items, (historyProtocol config schema).Follows
      (role, .purging logPaths count removed) (clean item)
      fun _ reached => reached = (role, .purging logPaths count removed)) :
    ClosesWell config schema (role, .purging logPaths count removed)
      (do
        ExceptT.lift (Program.forEach clean items)
        ExceptT.lift (history (.returns count))
        pure count : ExceptT SqlError HistoryAction Nat).run := by
  refine (Protocol.follows_liftThen _).mpr ?_
  refine ((historyProtocol config schema).follows_forEach cleans).weaken ?_
  rintro _ reached rfl
  exact ⟨.returns _ _ _, fun _ => hasEnded⟩

theorem closes_clearAll (filter : HistoryFilter) :
    ClosesWell config schema (.bystander, .asking (.clearAll filter))
      (clearAll filter).run := by
  refine ⟨.select filter, fun found => ?_⟩
  cases found with
  | error failure => rfl
  | ok logPaths =>
    refine ⟨.deleteFiltered filter logPaths, fun deleted => ?_⟩
    cases deleted with
    | error failure => rfl
    | ok removed =>
      exact closes_purge logPaths.length rfl fun logPath listed =>
        follows_removeLog listed

theorem closes_clearFinished (filter : HistoryFilter) :
    ClosesWell config schema (.bystander, .asking (.clearFinished filter))
      (clearFinished config filter).run := by
  refine ⟨.list filter, fun found => ?_⟩
  cases found with
  | error failure => rfl
  | ok ids =>
    refine ⟨.deleteFinished filter _, fun deleted => ?_⟩
    cases deleted with
    | error failure => rfl
    | ok removed =>
      refine closes_purge removed rfl fun id listed => ?_
      exact ⟨.removeFile _ _ (List.mem_map_of_mem listed), fun _ => rfl⟩

theorem closes_afterGetById (key : ResourceKey) {filter : HistoryFilter} :
    ClosesWell config schema (.bystander, .asking (.clearFinished filter))
      (do
        let _ ← ExceptT.mk (getById key).run.embed
        clearFinished config filter : ExceptT SqlError HistoryAction Nat).run := by
  refine (Protocol.follows_andThen _).mpr
    ((Machine.follows_embed (Quiet.stays (quiet_getById key) rfl) _).weaken ?_)
  rintro found ⟨reached, stage⟩ ⟨rfl, rfl⟩
  cases found with
  | error failure => rfl
  | ok resource => exact closes_clearFinished filter

theorem historyMachine_sound (config : Config) (schema : Schema) :
    (historyMachine config schema).Sound := by
  refine Machine.extend_sound (machine_sound config schema) ?_
  intro call
  cases call with
  | delete id => exact closes_answered (closes_deleteDeployment id)
  | clearAll filter => exact closes_answered (closes_clearAll filter)
  | clearDeploymentHistory id =>
    exact closes_answered (closes_afterGetById (.application id))
  | clearHistory id =>
    exact closes_answered (closes_afterGetById (.compose id))

end Conformance

end OpenOxide.Deployment
