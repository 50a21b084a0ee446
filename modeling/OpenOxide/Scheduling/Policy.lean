import OpenOxide.Concurrency.Pool

/-!
# Runs under a concurrency policy

`ScheduleService::run_with_policy` and the lock it takes: a row of
`schedule_execution_locks` with an owner and a time at which it expires.  The row
is replaced once it has expired, whether or not its owner has come to an end.

Every operation may come after any time; the time that passes before an operation
is part of its input.  Identifiers of owners are taken from a counter, so they are
never drawn twice.
-/

namespace OpenOxide.Scheduling

open Concurrency

/-- What becomes of a run beside another. -/
inductive ConcurrencyPolicy where
  | skip
  | queue
  | allow
deriving DecidableEq

/-- What becomes of a run that was missed. -/
inductive MissedRunPolicy where
  | skip
  | runOnce
deriving DecidableEq

/-- What started a run. -/
inductive ScheduleTriggerKind where
  | cron
  | manual
  | missed
  | retry

/-- `schedule_executions.status`. -/
inductive ScheduleExecutionStatus where
  | running
  | succeeded
  | failed
  | skipped
deriving DecidableEq

/-- A row of `schedule_runtime_policies`, with the defaults of its columns. -/
structure RuntimePolicy where
  retryCount : Int := 0
  retryDelaySeconds : Int := 30
  missedRunPolicy : MissedRunPolicy := .skip
  concurrencyPolicy : ConcurrencyPolicy := .skip
  leaseSeconds : Int := 3600
  notifyOnSuccess : Int := 0
  notifyOnFailure : Int := 1
  lastScheduledAt : Option Int := none

/-- What a run reads of a schedule. -/
structure StoredSchedule where
  enabled : Int
  organizationId : Option Int

structure ExecutionLock where
  ownerId : Nat
  acquiredAt : Int
  expiresAt : Int

structure ScheduleExecution where
  id : Nat
  scheduleId : Int
  organizationId : Option Int
  triggerKind : ScheduleTriggerKind
  status : ScheduleExecutionStatus
  attempt : Int
  scheduledAt : Int
  message : Option String

/-- How a run fails. -/
inductive ScheduleError where
  | rowNotFound
  | protocol (message : String)
  | database (message : String)

def ScheduleError.text : ScheduleError → String
  | .rowNotFound =>
    "no rows returned by a query that expected to return at least one row"
  | .protocol message => "encountered unexpected or invalid data: " ++ message
  | .database message => message

/-- The tables under their primary keys, with the clock. -/
structure ScheduleStore where
  schedules : Int → Option StoredSchedule
  policies : Int → Option RuntimePolicy
  locks : Int → Option ExecutionLock
  executions : List ScheduleExecution
  nextUuid : Nat
  nextExecution : Nat
  clock : Int

namespace ScheduleStore

def setPolicy (id : Int) (policy : RuntimePolicy) (store : ScheduleStore) :
    ScheduleStore :=
  { store with
    policies := fun other =>
      if other = id then some policy else store.policies other }

def setLock (id : Int) (lock : Option ExecutionLock) (store : ScheduleStore) :
    ScheduleStore :=
  { store with
    locks := fun other => if other = id then lock else store.locks other }

/-- The row is inserted with its defaults when there is none. -/
def policy (id : Int) (store : ScheduleStore) :
    ScheduleStore × RuntimePolicy :=
  match store.policies id with
  | some policy => (store, policy)
  | none => (store.setPolicy id {}, {})

/-- The lock is free, or its lease has run out. -/
def isFree (id : Int) (store : ScheduleStore) : Bool :=
  match store.locks id with
  | none => true
  | some lock => decide (lock.expiresAt ≤ store.clock)

/-- The lock, when it is free. -/
def acquire (id : Int) (ownerId : Nat) (leaseSeconds : Int)
    (store : ScheduleStore) : ScheduleStore × Bool :=
  if store.isFree id then
    (store.setLock id (some ⟨ownerId, store.clock,
      store.clock + leaseSeconds⟩), true)
  else (store, false)

/-- Only a lock of the owner. -/
def release (id : Int) (ownerId : Nat) (store : ScheduleStore) :
    ScheduleStore :=
  if (store.locks id).any fun lock => lock.ownerId == ownerId then
    store.setLock id none
  else store

def markScheduled (id timestamp : Int) (store : ScheduleStore) :
    ScheduleStore :=
  match store.policies id with
  | some policy =>
    store.setPolicy id { policy with lastScheduledAt := some timestamp }
  | none => store

def begin (scheduleId : Int) (organizationId : Option Int)
    (triggerKind : ScheduleTriggerKind) (attempt scheduledAt : Int)
    (store : ScheduleStore) : ScheduleStore × Nat :=
  ({ store with
    executions := store.executions ++ [⟨store.nextExecution, scheduleId,
      organizationId, triggerKind, .running, attempt, scheduledAt, none⟩]
    nextExecution := store.nextExecution + 1 }, store.nextExecution)

def finish (id : Nat) (status : ScheduleExecutionStatus) (message : String)
    (store : ScheduleStore) : ScheduleStore :=
  { store with
    executions := store.executions.map fun row =>
      if row.id = id then { row with status, message := some message }
      else row }

end ScheduleStore

/-- The statements and effects of a run. -/
inductive ScheduleOp where
  | getById (id : Int)
  | policy (id : Int)
  | newUuid
  | now
  | sleep (seconds : Int)
  | acquire (id : Int) (ownerId : Nat) (leaseSeconds : Int)
  | release (id : Int) (ownerId : Nat)
  | markScheduled (id timestamp : Int)
  | begin (scheduleId : Int) (organizationId : Option Int)
      (triggerKind : ScheduleTriggerKind) (attempt scheduledAt : Int)
  | runOnce (id : Int)
  | finish (id : Nat) (status : ScheduleExecutionStatus) (message : String)
  | notify (id : Int) (succeeded : Bool) (detail : String)

@[reducible] def ScheduleOp.Ret : ScheduleOp → Type
  | .getById _ => Except ScheduleError StoredSchedule
  | .policy _ => Except ScheduleError RuntimePolicy
  | .newUuid => Nat
  | .now => Int
  | .sleep _ => Unit
  | .acquire .. => Except ScheduleError Bool
  | .release .. => Except ScheduleError Unit
  | .markScheduled .. => Except ScheduleError Unit
  | .begin .. => Except ScheduleError Nat
  | .runOnce _ => Except ScheduleError String
  | .finish .. => Except ScheduleError Unit
  | .notify .. => Unit

/-- The seconds before the operation, whether it fails, and what a run says. -/
structure ScheduleInput where
  elapsed : Nat
  fault : Option ScheduleError
  message : String

def ScheduleInput.attempt {α : Type} (input : ScheduleInput)
    (store : ScheduleStore) (result : ScheduleStore × α) :
    ScheduleStore × Except ScheduleError α :=
  match input.fault with
  | some failure => (store, .error failure)
  | none => (result.1, .ok result.2)

/-- The store when an operation is performed. -/
def ScheduleInput.later (input : ScheduleInput) (store : ScheduleStore) :
    ScheduleStore :=
  { store with clock := store.clock + input.elapsed }

def performOp (op : ScheduleOp) (input : ScheduleInput)
    (store : ScheduleStore) : ScheduleStore × op.Ret :=
  match op with
  | .getById id =>
    match input.fault, store.schedules id with
    | some failure, _ => (store, .error failure)
    | none, some schedule => (store, .ok schedule)
    | none, none => (store, .error .rowNotFound)
  | .policy id => input.attempt store (store.policy id)
  | .newUuid => ({ store with nextUuid := store.nextUuid + 1 }, store.nextUuid)
  | .now => (store, store.clock)
  | .sleep seconds => ({ store with clock := store.clock + seconds }, ())
  | .acquire id ownerId leaseSeconds =>
    input.attempt store (store.acquire id ownerId leaseSeconds)
  | .release id ownerId => input.attempt store (store.release id ownerId, ())
  | .markScheduled id timestamp =>
    input.attempt store (store.markScheduled id timestamp, ())
  | .begin scheduleId organizationId triggerKind attempt scheduledAt =>
    input.attempt store (store.begin scheduleId organizationId triggerKind
      attempt scheduledAt)
  | .runOnce _ => input.attempt store (store, input.message)
  | .finish id status message =>
    input.attempt store (store.finish id status message, ())
  | .notify .. => (store, ())

def scheduleExec (op : ScheduleOp) (input : ScheduleInput)
    (store : ScheduleStore) : ScheduleStore × op.Ret :=
  performOp op input (input.later store)

abbrev ScheduleProgram := Program ScheduleOp ScheduleOp.Ret

abbrev ScheduleAction := ExceptT ScheduleError ScheduleProgram

def ScheduleOp.perform (op : ScheduleOp) : ScheduleProgram op.Ret :=
  Program.perform op

/-- Every sleep takes a second at least, so the deadline comes before the tries
are used up. -/
def awaitLock (id : Int) (owner : Nat) (leaseSeconds deadline : Int) :
    Nat → ScheduleAction Bool
  | 0 => pure false
  | tries + 1 => do
      if ← ExceptT.mk (ScheduleOp.acquire id owner leaseSeconds).perform then
        pure true
      else if deadline ≤ (← ExceptT.lift ScheduleOp.now.perform) then
        pure false
      else
        ExceptT.lift (ScheduleOp.sleep 1).perform
        awaitLock id owner leaseSeconds deadline tries

def takeLock (id : Int) (owner : Nat) (policy : RuntimePolicy) :
    ScheduleAction Bool :=
  match policy.concurrencyPolicy with
  | .allow => pure true
  | .queue => do
      let now ← ExceptT.lift ScheduleOp.now.perform
      awaitLock id owner policy.leaseSeconds (now + policy.leaseSeconds)
        (policy.leaseSeconds.toNat + 1)
  | .skip =>
    ExceptT.mk (ScheduleOp.acquire id owner policy.leaseSeconds).perform

/-- A failed release is ignored. -/
def releaseLock (id : Int) (owner : Nat) (policy : RuntimePolicy) :
    ScheduleProgram Unit :=
  if policy.concurrencyPolicy = .allow then pure ()
  else do
    let _ ← (ScheduleOp.release id owner).perform
    pure ()

structure Trigger where
  kind : ScheduleTriggerKind
  scheduledAt : Int

/-- The attempts that are left, with the number of the next one and the last
error. -/
def runAttempts (id : Int) (trigger : Trigger) (policy : RuntimePolicy)
    (schedule : StoredSchedule) :
    Nat → Int → Option ScheduleError →
      ScheduleAction (Except ScheduleError String)
  | 0, _, last =>
    pure (.error (last.getD (.protocol "schedule execution failed")))
  | left + 1, attempt, _ => do
      let kind := if attempt = 1 then trigger.kind else .retry
      let execution ← ExceptT.mk (ScheduleOp.begin id schedule.organizationId
        kind attempt trigger.scheduledAt).perform
      match ← ExceptT.lift (ScheduleOp.runOnce id).perform with
      | .ok message => do
          ExceptT.mk (ScheduleOp.finish execution .succeeded message).perform
          pure (.ok message)
      | .error error => do
          ExceptT.mk (ScheduleOp.finish execution .failed error.text).perform
          if attempt ≤ policy.retryCount then
            ExceptT.lift (ScheduleOp.sleep policy.retryDelaySeconds).perform
          runAttempts id trigger policy schedule left (attempt + 1)
            (some error)

/-- The rest of a run once its schedule has been read again. -/
def runEnabled (id : Int) (trigger : Trigger) (policy : RuntimePolicy)
    (owner : Nat) (schedule : StoredSchedule) : ScheduleAction String := do
  ExceptT.mk (ScheduleOp.markScheduled id trigger.scheduledAt).perform
  let outcome ← runAttempts id trigger policy schedule
    (policy.retryCount + 1).toNat 1 none
  ExceptT.lift (releaseLock id owner policy)
  match outcome with
  | .ok message => do
      if policy.notifyOnSuccess ≠ 0 then
        ExceptT.lift (ScheduleOp.notify id true message).perform
      pure message
  | .error error => do
      if policy.notifyOnFailure ≠ 0 then
        ExceptT.lift (ScheduleOp.notify id false error.text).perform
      throw error

/-- A run that has the lock, or needs none. -/
def runLocked (id : Int) (trigger : Trigger) (policy : RuntimePolicy)
    (owner : Nat) : ScheduleAction String := do
  match ← ExceptT.lift (ScheduleOp.getById id).perform with
  | .ok schedule =>
    if schedule.enabled ≠ 0 then
      runEnabled id trigger policy owner schedule
    else do
      ExceptT.lift (releaseLock id owner policy)
      throw (.protocol "schedule was deleted or disabled")
  | .error .rowNotFound => do
      ExceptT.lift (releaseLock id owner policy)
      throw (.protocol "schedule was deleted or disabled")
  | .error error => do
      ExceptT.lift (releaseLock id owner policy)
      throw error

/-- The execution that stands for a skipped run. -/
def recordSkipped (id : Int) (trigger : Trigger)
    (schedule : StoredSchedule) : ScheduleAction String := do
  let execution ← ExceptT.mk (ScheduleOp.begin id schedule.organizationId
    trigger.kind 1 trigger.scheduledAt).perform
  ExceptT.mk (ScheduleOp.finish execution .skipped
    "previous execution is still active").perform
  throw (.protocol "schedule skipped by concurrency policy")

/-- A run with all its attempts. -/
def runWithPolicy (id : Int) (trigger : Trigger) : ScheduleAction String := do
  let schedule ← ExceptT.mk (ScheduleOp.getById id).perform
  if schedule.enabled = 0 then throw (.protocol "schedule is disabled")
  let policy ← ExceptT.mk (ScheduleOp.policy id).perform
  let owner ← ExceptT.lift ScheduleOp.newUuid.perform
  if ← takeLock id owner policy then runLocked id trigger policy owner
  else recordSkipped id trigger schedule

/-- Cron expressions as the library reads them: the next time after another
one, or an error. -/
abbrev NextOccurrence := String → Int → Except ScheduleError Int

/-- A run that has been missed. -/
def recoverMissed (next : NextOccurrence) (id : Int)
    (cronExpression : String) : ScheduleAction Bool := do
  let policy ← ExceptT.mk (ScheduleOp.policy id).perform
  let now ← ExceptT.lift ScheduleOp.now.perform
  match policy.lastScheduledAt with
  | none => do
      ExceptT.mk (ScheduleOp.markScheduled id now).perform
      pure false
  | some last =>
    if policy.missedRunPolicy = .runOnce then do
      let occurrence ← ExceptT.mk (pure (next cronExpression last))
      if occurrence ≤ now then do
        let _ ← runWithPolicy id ⟨.missed, occurrence⟩
        pure true
      else pure false
    else pure false

end OpenOxide.Scheduling
