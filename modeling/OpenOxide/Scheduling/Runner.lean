import OpenOxide.Concurrency.Pool
import OpenOxide.Text.Strings

/-!
# The schedule runner

`ScheduleRunner` keeps one job of the cron scheduler for every enabled schedule,
database backup and volume backup.  A refresh compares the jobs with the tables,
and the scheduler calls the closure of a job whenever its time has come, without
waiting for earlier calls.

A closure owns what it has captured.  The set of running backups is captured by
cloning, so every job has a copy from the time of its registration, and every
call works on a copy of that copy, which is dropped at its end.
-/

namespace OpenOxide.Scheduling

open Concurrency Text

/-- The keys of the jobs: `schedule:1`, `db_backup:1` and `vol_backup:1`. -/
inductive JobKey where
  | schedule (id : Int)
  | dbBackup (id : Int)
  | volBackup (id : Int)
deriving DecidableEq

structure Schedule where
  id : Option Int
  cronExpression : String
  timezone : Option String
  enabled : Int

/-- A row of `backups`. -/
structure Backup where
  id : Option Int
  schedule : String
  enabled : Int

/-- The services whose volumes are backed up. -/
inductive VolumeServiceType where
  | application
  | compose
  | postgres
  | mysql
  | mariadb
  | mongo
  | redis
  | libsql

/-- A row of `volume_backups`, with the resource of each type. -/
structure VolumeBackup where
  id : Option Int
  cronExpression : String
  enabled : Int
  serviceType : String
  resource : VolumeServiceType → Option Int

def parseVolumeServiceType (value : String) : Option VolumeServiceType :=
  let upper := asciiUpper (trim value)
  if upper = "APPLICATION" then some .application
  else if upper = "COMPOSE" then some .compose
  else if upper = "POSTGRES" then some .postgres
  else if upper = "MYSQL" then some .mysql
  else if upper = "MARIADB" then some .mariadb
  else if upper = "MONGO" ∨ upper = "MONGODB" then some .mongo
  else if upper = "REDIS" then some .redis
  else if upper = "LIBSQL" then some .libsql
  else none

/-- The row names what its type needs. -/
def volumeBackupHasValidResource (backup : VolumeBackup) : Bool :=
  (parseVolumeServiceType backup.serviceType).any fun type =>
    (backup.resource type).isSome

/-- Five fields get a field of seconds. -/
def normalizeCronExpression (value : String) : String :=
  let trimmed := trim value
  let fields := (trimmed.toList.splitOnP isWhiteSpace).filter (· ≠ [])
  if fields.length = 5 then "0 " ++ trimmed else trimmed

def backupIsEnabled (enabled : Option Int) : Bool :=
  enabled == some 1

structure RegisteredScheduleJob where
  jobId : Nat
  cronExpression : String
  enabled : Int
  timezone : String

/-- A job of the scheduler, with the set that its closure has captured. -/
structure ScheduledJob where
  jobId : Nat
  key : JobKey
  inFlight : List JobKey

abbrev JobTable := List (JobKey × RegisteredScheduleJob)

/-- The tables, the fields of the runner and the scheduler. -/
structure RunnerState where
  schedules : List Schedule
  backups : List Backup
  volumeBackups : List VolumeBackup
  started : Bool
  jobs : JobTable
  inFlight : List JobKey
  backupSlots : Nat
  scheduled : List ScheduledJob
  nextJob : Nat

/-- What the libraries accept. -/
structure Library where
  isTimezone : String → Bool
  isCron : String → Bool

/-- The operations on jobs and semaphore. -/
inductive RunnerOp where
  | scheduler
  | listEnabled
  | backups
  | volumeBackups
  | jobs
  | schedulerRemove (jobId : Nat)
  | jobsRemove (key : JobKey)
  | inFlightRemove (key : JobKey)
  | recoverMissed (scheduleId : Int) (cronExpression : String)
  | inFlight
  | newJob (cronExpression : String)
  | schedulerAdd (job : ScheduledJob)
  | jobsInsert (key : JobKey) (job : RegisteredScheduleJob)
  | callJob (jobId : Nat)
  | backupById (backupId : Int)
  | volumeBackupById (backupId : Int)
  | runScheduled (scheduleId : Int)
  | acquireSlot
  | runBackup (key : JobKey)
  | appendLog (key : JobKey) (status message : String)
  | releaseSlot

@[reducible] def RunnerOp.Ret : RunnerOp → Type
  | .scheduler => Bool
  | .listEnabled => Except String (List Schedule)
  | .backups => Except String (List Backup)
  | .volumeBackups => Except String (List VolumeBackup)
  | .jobs => JobTable
  | .schedulerRemove _ => Except String Unit
  | .jobsRemove _ => Unit
  | .inFlightRemove _ => Unit
  | .recoverMissed _ _ => Except String Unit
  | .inFlight => List JobKey
  | .newJob _ => Except String Nat
  | .schedulerAdd _ => Except String Unit
  | .jobsInsert _ _ => Unit
  | .callJob _ => Option ScheduledJob
  | .backupById _ => Except String (Option Backup)
  | .volumeBackupById _ => Except String (Option VolumeBackup)
  | .runScheduled _ => Except String Unit
  | .acquireSlot => Unit
  | .runBackup _ => Except String Unit
  | .appendLog .. => Except String Unit
  | .releaseSlot => Unit

/-- Whether an operation fails, with the text of its error. -/
abbrev RunnerInput := Option String

def RunnerInput.attempt {α : Type} (fault : RunnerInput) (state : RunnerState)
    (result : RunnerState × α) : RunnerState × Except String α :=
  match fault with
  | some message => (state, .error message)
  | none => (result.1, .ok result.2)

def runnerExec (library : Library) (op : RunnerOp) (fault : RunnerInput)
    (state : RunnerState) : RunnerState × op.Ret :=
  match op with
  | .scheduler => (state, state.started)
  | .listEnabled => fault.attempt state
      (state, state.schedules.filter fun row => row.enabled == 1)
  | .backups => fault.attempt state (state, state.backups)
  | .volumeBackups => fault.attempt state (state, state.volumeBackups)
  | .jobs => (state, state.jobs)
  | .schedulerRemove jobId => fault.attempt state
      ({ state with
        scheduled := state.scheduled.filter fun job => job.jobId != jobId }, ())
  | .jobsRemove key =>
    ({ state with jobs := state.jobs.filter fun job => job.1 != key }, ())
  | .inFlightRemove key =>
    ({ state with inFlight := state.inFlight.filter (· != key) }, ())
  | .recoverMissed _ _ => fault.attempt state (state, ())
  | .inFlight => (state, state.inFlight)
  | .newJob cronExpression =>
    if library.isCron cronExpression then
      ({ state with nextJob := state.nextJob + 1 }, .ok state.nextJob)
    else (state, .error "invalid cron expression")
  | .schedulerAdd job => fault.attempt state
      ({ state with scheduled := state.scheduled ++ [job] }, ())
  | .jobsInsert key job =>
    ({ state with
      jobs := (key, job) :: state.jobs.filter fun job => job.1 != key }, ())
  | .callJob jobId =>
    (state, state.scheduled.find? fun job => job.jobId == jobId)
  | .backupById backupId => fault.attempt state
      (state, state.backups.find? fun row => row.id == some backupId)
  | .volumeBackupById backupId => fault.attempt state
      (state, state.volumeBackups.find? fun row => row.id == some backupId)
  | .runScheduled _ => fault.attempt state (state, ())
  | .acquireSlot =>
    ({ state with backupSlots := state.backupSlots - 1 }, ())
  | .runBackup _ => fault.attempt state (state, ())
  | .appendLog .. => fault.attempt state (state, ())
  | .releaseSlot => ({ state with backupSlots := state.backupSlots + 1 }, ())

abbrev RunnerProgram := Program RunnerOp RunnerOp.Ret

abbrev RunnerAction := ExceptT String RunnerProgram

def RunnerOp.perform (op : RunnerOp) : RunnerProgram op.Ret :=
  Program.perform op

/-- From the scheduler and from both tables. -/
def removeJob (key : JobKey) (jobId : Nat) : RunnerProgram Unit := do
  let _ ← (RunnerOp.schedulerRemove jobId).perform
  (RunnerOp.jobsRemove key).perform
  (RunnerOp.inFlightRemove key).perform

/-- Hand a new job to the scheduler, and remember it once it is there. -/
def addJob (key : JobKey) (cronExpression : String) (enabled : Int)
    (timezone : String) (captured : RunnerProgram (List JobKey)) :
    RunnerProgram Unit := do
  let inFlight ← captured
  match ← (RunnerOp.newJob cronExpression).perform with
  | .error _ => pure ()
  | .ok jobId =>
    match ← (RunnerOp.schedulerAdd ⟨jobId, key, inFlight⟩).perform with
    | .error _ => pure ()
    | .ok _ => (RunnerOp.jobsInsert key
        ⟨jobId, cronExpression, enabled, timezone⟩).perform

variable (current : JobTable)

/-- Replace the job under a key when it has changed or there is none.  The
closure of a backup captures a copy of the set of running backups. -/
def replaceJob (key : JobKey)
    (cronExpression : String) (enabled : Int) (timezone : String)
    (changed : RegisteredScheduleJob → Bool)
    (captured : RunnerProgram (List JobKey)) : RunnerProgram Unit := do
  let registered := current.lookup key
  if (registered.map changed).getD true then
    match registered with
    | some job => removeJob key job.jobId
    | none => pure ()
    addJob key cronExpression enabled timezone captured
  else pure ()

/-- The job of a schedule. -/
def replaceSchedule (library : Library) (current : JobTable)
    (schedule : Schedule) : RunnerProgram Unit :=
  match schedule.id with
  | none => pure ()
  | some id => do
      let cronExpression := normalizeCronExpression schedule.cronExpression
      let timezone := schedule.timezone.getD "UTC"
      if library.isTimezone timezone then
        let _ ← (RunnerOp.recoverMissed id cronExpression).perform
        replaceJob current (.schedule id) cronExpression schedule.enabled
          timezone (fun registered =>
            registered.cronExpression != cronExpression ||
              registered.enabled != schedule.enabled ||
              registered.timezone != timezone) (pure [])
      else pure ()

/-- The job of a backup. -/
def replaceBackup (key : JobKey) (expression : String)
    (enabled : Int) : RunnerProgram Unit :=
  let cronExpression := normalizeCronExpression expression
  replaceJob current key cronExpression enabled "UTC"
    (fun registered => registered.cronExpression != cronExpression ||
      registered.enabled != enabled) RunnerOp.inFlight.perform

def replaceDbBackup (backup : Backup) : RunnerProgram Unit :=
  match backup.id with
  | none => pure ()
  | some id =>
    replaceBackup current (.dbBackup id) backup.schedule backup.enabled

def replaceVolBackup (backup : VolumeBackup) : RunnerProgram Unit :=
  match backup.id with
  | none => pure ()
  | some id =>
    replaceBackup current (.volBackup id) backup.cronExpression
      backup.enabled

/-- The jobs that there should be. -/
def enabledKeys (schedules : List Schedule) (backups : List Backup)
    (volumeBackups : List VolumeBackup) : List JobKey :=
  (schedules.filterMap fun row => row.id.map .schedule) ++
    (backups.filterMap fun row => row.id.map .dbBackup) ++
    volumeBackups.filterMap fun row => row.id.map .volBackup

/-- What a refresh does once the tables are read. -/
def replaceJobs (library : Library) (schedules : List Schedule)
    (backups : List Backup) (volumeBackups : List VolumeBackup) :
    RunnerProgram Unit := do
  let jobs ← RunnerOp.jobs.perform
  let stale := jobs.filter fun job =>
    !(enabledKeys schedules backups volumeBackups).contains job.1
  Program.forEach (fun job => removeJob job.1 job.2.jobId) stale
  let current ← RunnerOp.jobs.perform
  Program.forEach (replaceSchedule library current) schedules
  Program.forEach (replaceDbBackup current) backups
  Program.forEach (replaceVolBackup current) volumeBackups

/-- The jobs follow the tables. -/
def refreshJobs (library : Library) : RunnerAction Unit := do
  if ← ExceptT.lift RunnerOp.scheduler.perform then
    let schedules ← ExceptT.mk RunnerOp.listEnabled.perform
    let backups ← ExceptT.mk RunnerOp.backups.perform
    let volumeBackups ← ExceptT.mk RunnerOp.volumeBackups.perform
    ExceptT.lift (replaceJobs library schedules
      (backups.filter fun row => row.enabled == 1)
      (volumeBackups.filter fun row =>
        row.enabled == 1 && volumeBackupHasValidResource row))
  else throw "schedule runner is not started"

def logStatus : Except String Unit → String
  | .ok _ => "SUCCEEDED"
  | .error _ => "FAILED"

def logMessage (what : String) : Except String Unit → String
  | .ok _ => what ++ " executed successfully"
  | .error error => error

/-- A call of a backup's closure, with the check of its row.  The set is the
call's own, so what is put in or taken out of it is not seen elsewhere. -/
def runGuarded (inFlight : List JobKey) (key : JobKey) (what : String) :
    RunnerProgram Unit :=
  if inFlight.contains key then pure ()
  else do
    RunnerOp.acquireSlot.perform
    let result ← (RunnerOp.runBackup key).perform
    let _ ← (RunnerOp.appendLog key (logStatus result)
      (logMessage what result)).perform
    RunnerOp.releaseSlot.perform

/-- The row is read again before the run. -/
def dbBackupCallback (inFlight : List JobKey) (backupId : Int) :
    RunnerProgram Unit := do
  let row ← (RunnerOp.backupById backupId).perform
  let enabled := row.toOption.join.map Backup.enabled
  if backupIsEnabled enabled then
    runGuarded inFlight (.dbBackup backupId) "database backup"
  else pure ()

def volBackupCallback (inFlight : List JobKey) (backupId : Int) :
    RunnerProgram Unit := do
  let row ← (RunnerOp.volumeBackupById backupId).perform
  if row.toOption.join.any fun backup =>
      backupIsEnabled (some backup.enabled) &&
        volumeBackupHasValidResource backup then
    runGuarded inFlight (.volBackup backupId) "volume backup"
  else pure ()

/-- What the closure of a job does when the scheduler calls it. -/
def callback (job : ScheduledJob) : RunnerProgram Unit :=
  match job.key with
  | .schedule id => do
      let _ ← (RunnerOp.runScheduled id).perform
      pure ()
  | .dbBackup id => dbBackupCallback job.inFlight id
  | .volBackup id => volBackupCallback job.inFlight id

/-- The scheduler calls a closure. -/
def callJob (jobId : Nat) : RunnerProgram Unit := do
  match ← (RunnerOp.callJob jobId).perform with
  | some job => callback job
  | none => pure ()

end OpenOxide.Scheduling
