import OpenOxide.Scheduling.Runner

/-!
# Overlapping backups

No call of a closure sees the mark of another one, so what keeps two runs of a
backup apart is outside of the set: a single slot, or calls that come only after
the earlier ones.  In every run with one slot, or in which the scheduler calls a
backup only when its earlier calls have come to their end, no two runs of a
backup are in progress.
-/

namespace OpenOxide.Scheduling

open Concurrency

/-- Where a call of the scheduler is. -/
inductive RunnerStage where
  | refreshing
  | fired
  | called (job : ScheduledJob)
  | checked (key : JobKey)
  | running (key : JobKey)
  | finished (key : JobKey)
  | logged (key : JobKey)
  | ended

namespace RunnerStage

/-- A call of a backup that has begun and whose run is not over. -/
def isActive (key : JobKey) : RunnerStage → Bool
  | .called job => job.key == key
  | .checked other => other == key
  | .running other => other == key
  | _ => false

def isRunning (key : JobKey) : RunnerStage → Bool
  | .running other => other == key
  | _ => false

def holdsSlot : RunnerStage → Bool
  | .running _ => true
  | .finished _ => true
  | .logged _ => true
  | _ => false

end RunnerStage

/-- The operations of a refresh. -/
def RunnerOp.isRefresh : RunnerOp → Bool
  | .callJob _ | .backupById _ | .volumeBackupById _ | .runScheduled _ => false
  | .acquireSlot | .runBackup _ | .appendLog .. | .releaseSlot => false
  | _ => true

/-- What a call may do next. -/
inductive RunnerStage.Allows : RunnerStage → RunnerOp → Prop where
  | refresh (op : RunnerOp) (calm : op.isRefresh = true) :
      Allows .refreshing op
  | call (jobId : Nat) : Allows .fired (.callJob jobId)
  | schedule (jobId : Nat) (inFlight : List JobKey) (id : Int) :
      Allows (.called ⟨jobId, .schedule id, inFlight⟩) (.runScheduled id)
  | backup (jobId : Nat) (inFlight : List JobKey) (id : Int) :
      Allows (.called ⟨jobId, .dbBackup id, inFlight⟩) (.backupById id)
  | volume (jobId : Nat) (inFlight : List JobKey) (id : Int) :
      Allows (.called ⟨jobId, .volBackup id, inFlight⟩) (.volumeBackupById id)
  | acquire (key : JobKey) : Allows (.checked key) .acquireSlot
  | run (key : JobKey) : Allows (.running key) (.runBackup key)
  | log (key : JobKey) (status message : String) :
      Allows (.finished key) (.appendLog key status message)
  | release (key : JobKey) : Allows (.logged key) .releaseSlot

/-- The row of a database backup lets its call go on. -/
def goesOn (row : Except String (Option Backup)) : Bool :=
  backupIsEnabled (row.toOption.join.map Backup.enabled)

def goesOnVolume (row : Except String (Option VolumeBackup)) : Bool :=
  row.toOption.join.any fun backup =>
    backupIsEnabled (some backup.enabled) &&
      volumeBackupHasValidResource backup

/-- A call whose row has been checked. -/
def RunnerStage.afterCheck (job : ScheduledJob) (passed : Bool) : RunnerStage :=
  if passed && !job.inFlight.contains job.key then .checked job.key else .ended

def RunnerStage.advance (stage : RunnerStage) (op : RunnerOp)
    (answer : op.Ret) : RunnerStage :=
  match stage, op, answer with
  | .fired, .callJob _, some job => .called job
  | .fired, .callJob _, none => .ended
  | .called _, .runScheduled _, _ => .ended
  | .called job, .backupById _, row => .afterCheck job (goesOn row)
  | .called job, .volumeBackupById _, row => .afterCheck job (goesOnVolume row)
  | .checked key, .acquireSlot, _ => .running key
  | .running key, .runBackup _, _ => .finished key
  | .finished key, .appendLog .., _ => .logged key
  | .logged _, .releaseSlot, _ => .ended
  | stage, _, _ => stage

def runnerProtocol : Protocol RunnerOp RunnerOp.Ret RunnerStage where
  allows := RunnerStage.Allows
  advance := RunnerStage.advance

/-- The calls of the scheduler. -/
inductive RunnerCall where
  | refreshJobs
  | callJob (jobId : Nat)

/-- Any change of the tables by other requests. -/
structure TableEdit where
  schedules : List Schedule
  backups : List Backup
  volumeBackups : List VolumeBackup

def parseUsize (text : String) : Option Nat :=
  Text.parseUnsigned UInt64.size text.toList

/-- The number of slots, from `BACKGROUND_BACKUP_CONCURRENCY`. -/
def backupConcurrency (setting : Option String) : Nat :=
  max 1 ((setting.bind parseUsize).getD 2)

/-- `ScheduleRunner::new`, with the scheduler created. -/
def RunnerState.new (slots : Nat) (tables : TableEdit) (started : Bool) :
    RunnerState where
  schedules := tables.schedules
  backups := tables.backups
  volumeBackups := tables.volumeBackups
  started := started
  jobs := []
  inFlight := []
  backupSlots := slots
  scheduled := []
  nextJob := 0

abbrev RunnerTask := Task RunnerOp RunnerOp.Ret RunnerStage

variable (library : Library)

def RunnerCall.task : RunnerCall → RunnerTask
  | .refreshJobs => ⟨.refreshing, do
      let _ ← (Scheduling.refreshJobs library).run
      pure ()⟩
  | .callJob jobId => ⟨.fired, Scheduling.callJob jobId⟩

abbrev RunnerMachine := Machine RunnerOp RunnerOp.Ret RunnerState RunnerInput
  RunnerStage RunnerCall TableEdit

abbrev RunnerGuard := Guard RunnerOp RunnerOp.Ret RunnerState RunnerInput
  RunnerStage RunnerCall

abbrev RunnerView := View RunnerOp RunnerOp.Ret RunnerState RunnerStage

abbrev RunnerPool := Pool RunnerOp RunnerOp.Ret RunnerState RunnerStage

/-- A panic ends the process, and a restart finds the tables as they were. -/
def runnerMachine (slots : Nat) : RunnerMachine where
  protocol := runnerProtocol
  ready op state :=
    match op with
    | .acquireSlot => decide (0 < state.backupSlots)
    | _ => true
  exec := runnerExec library
  children _ := []
  serve := RunnerCall.task library
  unwind _ := none
  signal edit state :=
    { state with
      schedules := edit.schedules
      backups := edit.backups
      volumeBackups := edit.volumeBackups }
  restart state := .new slots
    ⟨state.schedules, state.backups, state.volumeBackups⟩ state.started
  ended stage := stage = .refreshing ∨ stage = .ended

def freshPool (slots : Nat) (tables : TableEdit) (started : Bool) :
    RunnerPool :=
  ⟨.new slots tables started, [], []⟩

/-- A program of refresh operations. -/
def Calm {α : Type} (program : RunnerProgram α) : Prop :=
  program.Only fun op => op.isRefresh = true

variable {op : RunnerOp}

theorem calm_perform (calm : op.isRefresh = true) :
    Calm op.perform :=
  Program.only_perform calm

theorem calm_removeJob (key : JobKey) (jobId : Nat) :
    Calm (removeJob key jobId) := by
  refine Program.Only.bind (calm_perform rfl) fun _ => ?_
  refine Program.Only.bind (calm_perform rfl) fun _ => ?_
  exact calm_perform rfl

variable {captured : RunnerProgram (List JobKey)}

theorem calm_addJob (key : JobKey) (cronExpression : String) (enabled : Int)
    (timezone : String)
    (calm : Calm captured) :
    Calm (addJob key cronExpression enabled timezone captured) := by
  refine Program.Only.bind calm fun inFlight => ?_
  refine Program.Only.bind (calm_perform rfl) fun created => ?_
  cases created with
  | error message => trivial
  | ok jobId =>
    refine Program.Only.bind (calm_perform rfl) fun outcome => ?_
    cases outcome with
    | error message => trivial
    | ok value => exact calm_perform rfl

theorem calm_replaceJob (current : JobTable) (key : JobKey)
    (cronExpression : String) (enabled : Int) (timezone : String)
    (changed : RegisteredScheduleJob → Bool)
    (calm : Calm captured) :
    Calm (replaceJob current key cronExpression enabled timezone changed
      captured) := by
  have added := calm_addJob key cronExpression enabled timezone calm
  rw [replaceJob]
  split
  · cases current.lookup key with
    | none => exact added
    | some job =>
      exact Program.Only.bind (calm_removeJob key job.jobId) fun _ => added
  · trivial

theorem calm_replaceJobs (schedules : List Schedule)
    (backups : List Backup) (volumeBackups : List VolumeBackup) :
    Calm (replaceJobs library schedules backups volumeBackups) := by
  have backup : ∀ current key expression enabled,
      Calm (replaceBackup current key expression enabled) := by
    intro current key expression enabled
    exact calm_replaceJob _ _ _ _ _ _ (calm_perform rfl)
  refine Program.Only.bind (calm_perform rfl) fun jobs => ?_
  refine Program.Only.bind (Program.Only.forEach
    (fun job : JobKey × RegisteredScheduleJob =>
      calm_removeJob job.1 job.2.jobId) _) fun _ => ?_
  refine Program.Only.bind (calm_perform rfl) fun current => ?_
  refine Program.Only.bind (Program.Only.forEach (fun schedule => ?_) _)
    fun _ => ?_
  · rw [replaceSchedule]
    split
    · trivial
    · dsimp only
      split
      · exact Program.Only.bind (calm_perform rfl) fun _ =>
          calm_replaceJob _ _ _ _ _ _ trivial
      · trivial
  refine Program.Only.bind (Program.Only.forEach (fun row => ?_) _)
    fun _ => ?_
  · rw [replaceDbBackup]
    split
    · trivial
    · exact backup _ _ _ _
  refine Program.Only.forEach (fun row => ?_) _
  rw [replaceVolBackup]
  split
  · trivial
  · exact backup _ _ _ _

theorem calm_refreshJobs : Calm (refreshJobs library).run := by
  refine Program.Only.andThen (Program.Only.lift (calm_perform rfl))
    fun started => ?_
  cases started with
  | false => trivial
  | true =>
    refine Program.Only.andThen (calm_perform rfl) fun schedules => ?_
    refine Program.Only.andThen (calm_perform rfl) fun backups => ?_
    refine Program.Only.andThen (calm_perform rfl) fun volumeBackups => ?_
    exact Program.Only.lift (calm_replaceJobs _ _ _ _)

theorem follows_runGuarded {job : ScheduledJob} {passed : Bool}
    (what : String) :
    runnerProtocol.Follows (.afterCheck job passed)
      (if passed then runGuarded job.inFlight job.key what else pure ())
      fun _ reached => reached = .ended := by
  cases passed with
  | false => rfl
  | true =>
    rw [RunnerStage.afterCheck, runGuarded]
    cases job.inFlight.contains job.key with
    | true => rfl
    | false =>
      refine ⟨.acquire job.key, fun _ => ?_⟩
      refine ⟨.run job.key, fun result => ?_⟩
      refine ⟨.log job.key _ _, fun _ => ?_⟩
      exact ⟨.release job.key, fun _ => rfl⟩

theorem follows_callJob (jobId : Nat) :
    runnerProtocol.Follows .fired (callJob jobId)
      fun _ reached => reached = .ended := by
  refine ⟨.call jobId, fun found => ?_⟩
  cases found with
  | none => rfl
  | some job =>
    obtain ⟨number, key, inFlight⟩ := job
    cases key with
    | schedule id => exact ⟨.schedule number inFlight id, fun _ => rfl⟩
    | dbBackup id =>
      refine ⟨.backup number inFlight id, fun row => ?_⟩
      exact @follows_runGuarded ⟨number, .dbBackup id, inFlight⟩
        (goesOn row) "database backup"
    | volBackup id =>
      refine ⟨.volume number inFlight id, fun row => ?_⟩
      exact @follows_runGuarded ⟨number, .volBackup id, inFlight⟩
        (goesOnVolume row) "volume backup"

theorem runner_sound (slots : Nat) : (runnerMachine library slots).Sound := by
  constructor
  · intro op task member
    cases member
  · intro call
    cases call with
    | refreshJobs =>
      have calm : Calm (RunnerCall.refreshJobs.task library).code :=
        Program.Only.bind (calm_refreshJobs library) fun _ => trivial
      refine Protocol.Follows.weaken (Protocol.follows_only _ calm
        (fun op => .refresh op) ?_) ?_
      · intro op answer refresh
        cases op <;> rfl
      · rintro value reached rfl
        exact .inl rfl
    | callJob jobId =>
      apply (follows_callJob jobId).weaken
      rintro value reached rfl
      exact .inr rfl
  · intro label task handled
    cases handled

def JobKey.isBackup : JobKey → Bool
  | .schedule _ => false
  | .dbBackup _ => true
  | .volBackup _ => true

/-- There is one slot, or the scheduler calls a backup only when no earlier call
of the backup is still before the end of its run. -/
def callsApart (slots : Nat) : RunnerGuard where
  op view _ op _ :=
    match op with
    | .callJob jobId => slots = 1 ∨
        ∀ job ∈ view.state.scheduled, job.jobId = jobId →
          job.key.isBackup = true →
            ∀ stage ∈ view.labels, stage.isActive job.key = false
    | _ => True
  unwind _ _ := True
  arrive _ _ := True
  restart := True

/-- The slots are those that are free and those that are held, and with more than
one of them every backup has at most one active call. -/
structure Apart (slots : Nat) (view : RunnerView) : Prop where
  counted : view.state.backupSlots + view.labels.countP RunnerStage.holdsSlot =
    slots
  active : slots = 1 ∨ ∀ key : JobKey, key.isBackup = true →
    view.labels.countP (RunnerStage.isActive key) ≤ 1

theorem backupSlots_exec {library : Library} (acquires : op ≠ .acquireSlot)
    (releases : op ≠ .releaseSlot) (fault : RunnerInput)
    (state : RunnerState) :
    (runnerExec library op fault state).1.backupSlots =
      state.backupSlots := by
  cases op with
  | acquireSlot => exact absurd rfl acquires
  | releaseSlot => exact absurd rfl releases
  | newJob cronExpression =>
    rw [runnerExec]
    split <;> rfl
  | _ => cases fault <;> rfl

section Steps

variable {library : Library} {slots : Nat} {view : RunnerView}
  {labels : List RunnerStage} {label reached : RunnerStage}

section

variable (apart : Apart slots view)

include apart

/-- A step that takes or gives back a slot as its stage says, and that begins a
call only where there is none. -/
theorem Apart.moves
    (replaced : Replaced (runnerMachine library slots).ended label reached []
      view.labels labels) {state : RunnerState}
    (balance : state.backupSlots + reached.holdsSlot.toNat =
      view.state.backupSlots + label.holdsSlot.toNat)
    (begins : slots = 1 ∨ ∀ key : JobKey, key.isBackup = true →
      reached.isActive key = true → label.isActive key = true ∨
        view.labels.countP (RunnerStage.isActive key) = 0)
    (history : List (Entry RunnerOp RunnerOp.Ret RunnerStage)) :
    Apart slots ⟨state, labels, history⟩ := by
  constructor
  · have held := replaced.countP RunnerStage.holdsSlot (by
      rintro (rfl | rfl) <;> rfl)
    have before := apart.counted
    rw [List.countP_nil] at held
    change state.backupSlots + labels.countP RunnerStage.holdsSlot = slots
    omega
  · rcases begins with one | begins
    · exact .inl one
    · rcases apart.active with one | single
      · exact .inl one
      · right
        intro key backup
        exact replaced.countP_le_one (single key backup) (begins key backup)

theorem Apart.check {job : ScheduledJob} {passed : Bool}
    (replaced : Replaced (runnerMachine library slots).ended (.called job)
      (.afterCheck job passed) [] view.labels labels) {state : RunnerState}
    (same : state.backupSlots = view.state.backupSlots)
    (history : List (Entry RunnerOp RunnerOp.Ret RunnerStage)) :
    Apart slots ⟨state, labels, history⟩ := by
  rw [RunnerStage.afterCheck] at replaced
  split at replaced
  · exact apart.moves replaced (by rw [same]; rfl)
      (.inr fun key _ active => .inl active) _
  · exact apart.moves replaced (by rw [same]; rfl)
      (.inr fun key _ active => by cases active) _

theorem Apart.operation {input : RunnerInput}
    (replaced : Replaced (runnerMachine library slots).ended label
      (label.advance op (runnerExec library op input view.state).2) []
      view.labels labels) (allowed : label.Allows op)
    (ready : (runnerMachine library slots).ready op view.state = true)
    (permitted : (callsApart slots).op view label op input)
    (history : List (Entry RunnerOp RunnerOp.Ret RunnerStage)) :
    Apart slots ⟨(runnerExec library op input view.state).1, labels,
      history⟩ := by
  cases allowed with
  | refresh _ calm =>
    have stays : ∀ answer, RunnerStage.refreshing.advance op answer =
        .refreshing := by
      intro answer
      cases op <;> rfl
    rw [stays] at replaced
    refine apart.moves replaced ?_ (.inr fun key _ active => ?_) _
    · rw [backupSlots_exec]
      · rintro rfl
        cases calm
      · rintro rfl
        cases calm
    · cases active
  | call jobId =>
    have found : (runnerExec library (.callJob jobId) input view.state).2 =
        view.state.scheduled.find? fun job => job.jobId == jobId := rfl
    rw [found] at replaced
    cases answer : view.state.scheduled.find? fun job => job.jobId == jobId with
    | none =>
      rw [answer] at replaced
      exact apart.moves replaced rfl
        (.inr fun key _ active => by cases active) _
    | some job =>
      rw [answer] at replaced
      refine apart.moves replaced rfl ?_ _
      rcases permitted with one | free
      · exact .inl one
      · right
        intro key backup active
        have same : job.key = key := beq_iff_eq.mp active
        have named := List.find?_some answer
        have none := free job (List.mem_of_find?_eq_some answer)
          (beq_iff_eq.mp named) (same ▸ backup)
        right
        rw [List.countP_eq_zero]
        intro stage member
        rw [← same, none stage member]
        exact Bool.false_ne_true
  | schedule | run | log =>
    refine apart.moves replaced ?_ (.inr fun key _ active => ?_) _
    · rw [backupSlots_exec (by simp) (by simp)]
      rfl
    · cases active
  | backup | volume =>
    exact apart.check replaced (backupSlots_exec (by simp) (by simp) _ _) _
  | acquire key =>
    refine apart.moves replaced ?_ (.inr fun other _ active => ?_) _
    · have free : 0 < view.state.backupSlots := of_decide_eq_true ready
      change view.state.backupSlots - 1 + 1 = view.state.backupSlots + 0
      omega
    · exact .inl active
  | release key =>
    exact apart.moves replaced rfl (.inr fun key _ active => by cases active) _

theorem Apart.step {next : RunnerView}
    (step : View.Step (runnerMachine library slots) (callsApart slots) view
      next) : Apart slots next := by
  cases step with
  | op replaced allowed ready permitted =>
    exact apart.operation replaced allowed ready permitted _
  | unwind _ handled _ => cases handled
  | arrive call _ left =>
    have idle : (call.task library).label.holdsSlot = false ∧
        ∀ key, (call.task library).label.isActive key = false := by
      cases call with
      | refreshJobs | callJob =>
        exact ⟨rfl, fun _ => rfl⟩
    have joined := left.imp_right And.left
    constructor
    · rw [countP_arrives _ idle.1 joined]
      exact apart.counted
    · refine apart.active.imp_right fun single key backup => ?_
      rw [countP_arrives _ (idle.2 key) joined]
      exact single key backup
  | signal edit => exact ⟨apart.counted, apart.active⟩
  | restart _ =>
    exact ⟨rfl, .inr fun key _ => Nat.zero_le _⟩

end

end Steps

/-- In every run with one slot, or in which the scheduler calls a backup only
when its earlier calls have come to the end of their runs, no two runs of a
backup are in progress. -/
theorem backups_never_overlap (library : Library) (setting : Option String)
    (tables : TableEdit) (started : Bool)
    {events : List (Event RunnerInput RunnerCall TableEdit)}
    {pool : RunnerPool}
    (run : Pool.Run (runnerMachine library (backupConcurrency setting))
      (callsApart (backupConcurrency setting))
      (freshPool (backupConcurrency setting) tables started) events pool)
    (key : JobKey) (backup : key.isBackup = true) :
    pool.tasks.countP (fun task => task.label.isRunning key) ≤ 1 := by
  have reached := (run.reaches (runner_sound _ _) (by simp [freshPool])).1
  have apart : Apart (backupConcurrency setting) pool.view :=
    reached.invariant (Apart _) ⟨rfl, .inr fun _ _ => Nat.zero_le _⟩
      fun view next known step => known.step step
  have labels : pool.tasks.countP (fun task => task.label.isRunning key) =
      pool.view.labels.countP (RunnerStage.isRunning key) := by
    rw [Pool.view, List.countP_map]
    rfl
  have holds : pool.view.labels.countP (RunnerStage.isRunning key) ≤
      pool.view.labels.countP RunnerStage.holdsSlot := by
    apply List.countP_mono_left
    intro stage _ running
    cases stage <;> first | rfl | cases running
  have active : pool.view.labels.countP (RunnerStage.isRunning key) ≤
      pool.view.labels.countP (RunnerStage.isActive key) := by
    apply List.countP_mono_left
    intro stage _ running
    cases stage <;> first | exact running | cases running
  have counted := apart.counted
  rw [labels]
  rcases apart.active with one | single
  · omega
  · exact Nat.le_trans active (single key backup)

instance (slots : Nat) : (callsApart slots).Checkable where
  op view _ op _ := by
    cases op with
    | callJob jobId =>
      exact inferInstanceAs (Decidable (slots = 1 ∨
        ∀ job ∈ view.state.scheduled, job.jobId = jobId →
          job.key.isBackup = true →
            ∀ stage ∈ view.labels, stage.isActive job.key = false))
    | _ => exact .isTrue trivial

/-- Every zone and every expression is one. -/
def lenient : Library := ⟨fun _ => true, fun _ => true⟩

/-- One database backup, every minute. -/
def everyMinute : TableEdit := ⟨[], [⟨some 1, "* * * * *", 1⟩], []⟩

def proceeds (index : Nat) : Event RunnerInput RunnerCall TableEdit :=
  .run index none

/-- A refresh registers the backup. -/
def registration : List (Event RunnerInput RunnerCall TableEdit) :=
  .arrive .refreshJobs :: List.replicate 10 (proceeds 0)

/-- A call comes to its run. -/
def callToRun (index : Nat) : List (Event RunnerInput RunnerCall TableEdit) :=
  .arrive (.callJob 0) :: List.replicate 3 (proceeds index)

theorem backups_never_overlap_every_minute :
    ∃ pool, Pool.Run (runnerMachine lenient (backupConcurrency none))
        (callsApart (backupConcurrency none))
        (freshPool (backupConcurrency none) everyMinute true)
        (registration ++ callToRun 0 ++ [proceeds 0] ++ callToRun 1) pool ∧
      pool.tasks.countP
        (fun task => task.label.isRunning (.dbBackup 1)) ≤ 1 := by
  refine Pool.Run.exists_checked (fun _ => True) (by decide +kernel) ?_
  intro pool run _
  exact backups_never_overlap lenient none everyMinute true run (.dbBackup 1)
    rfl

/-- With the two slots of the default, a second call of the backup comes to its
run while the first is still running. -/
theorem called_twice_overlaps :
    ∃ events pool, Pool.Run (runnerMachine lenient (backupConcurrency none))
        .free (freshPool (backupConcurrency none) everyMinute true) events
        pool ∧
      pool.tasks.countP
        (fun task => task.label.isRunning (.dbBackup 1)) = 2 := by
  refine ⟨registration ++ callToRun 0 ++ callToRun 1, ?_⟩
  exact Pool.Run.exists_checked _ (by decide +kernel) fun _ _ twice => twice

end OpenOxide.Scheduling
