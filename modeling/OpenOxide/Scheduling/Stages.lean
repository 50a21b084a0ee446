import OpenOxide.Concurrency.Ghost
import OpenOxide.Scheduling.Policy

/-!
# The stages of a run

A run is labelled with its stage, which says whether it has the lock of its
schedule, and with a ledger of what it has open: the lock, and the execution it has
begun and not finished.

A run gives its lock back and finishes its executions on the paths that the source
foresees: the schedule has gone, or the attempts are over.  A statement that fails
in between ends the run with `?`, and nothing is given back.  The ledger notes such
a failure, so that at the end of a run it is settled: nothing is open exactly when
no such statement has failed.
-/

namespace OpenOxide.Scheduling

open Concurrency

/-- Where a run is with its lease. -/
inductive RunStage where
  | fresh (id : Int)
  | known (id : Int)
  | planned (id : Int) (concurrency : ConcurrencyPolicy)
  | asking (id : Int) (owner : Nat)
  | inside (id : Int) (owner : Option Nat)
  | running (id : Int) (owner : Option Nat)
  | outside

namespace RunStage

def isRunning (id : Int) : RunStage → Bool
  | .running other _ => other == id
  | _ => false

/-- A run that has taken the lock of a schedule and has not come to its end. -/
def holds (id : Int) : RunStage → Bool
  | .inside other owner => other == id && owner.isSome
  | .running other owner => other == id && owner.isSome
  | _ => false

def owner : RunStage → Option Nat
  | .asking _ owner => some owner
  | .inside _ owner => owner
  | .running _ owner => owner
  | _ => none

def isBusy : RunStage → Bool
  | .running _ _ => true
  | _ => false

end RunStage

/-- What a run may do next. -/
inductive RunStage.Allows : RunStage → ScheduleOp → Prop where
  | lookUp (id : Int) : Allows (.fresh id) (.policy id)
  | compare (id : Int) : Allows (.fresh id) .now
  | mark (id timestamp : Int) : Allows (.fresh id) (.markScheduled id timestamp)
  | look (id : Int) : Allows (.fresh id) (.getById id)
  | choose (id : Int) : Allows (.known id) (.policy id)
  | draw (id : Int) (concurrency : ConcurrencyPolicy) :
      Allows (.planned id concurrency) .newUuid
  | ask (id : Int) (owner : Nat) (leaseSeconds : Int) :
      Allows (.asking id owner) (.acquire id owner leaseSeconds)
  | clock (id : Int) (owner : Nat) : Allows (.asking id owner) .now
  | wait (id : Int) (owner : Nat) (seconds : Int) :
      Allows (.asking id owner) (.sleep seconds)
  | skip (id : Int) (owner : Nat) (organizationId : Option Int)
      (kind : ScheduleTriggerKind) (attempt scheduledAt : Int) :
      Allows (.asking id owner)
        (.begin id organizationId kind attempt scheduledAt)
  | skipped (id : Int) (owner execution : Nat)
      (status : ScheduleExecutionStatus) (message : String) :
      Allows (.asking id owner) (.finish execution status message)
  | again (id : Int) (owner : Option Nat) :
      Allows (.inside id owner) (.getById id)
  | scheduled (id : Int) (owner : Option Nat) (timestamp : Int) :
      Allows (.inside id owner) (.markScheduled id timestamp)
  | start (id : Int) (owner : Option Nat) (organizationId : Option Int)
      (kind : ScheduleTriggerKind) (attempt scheduledAt : Int) :
      Allows (.inside id owner)
        (.begin id organizationId kind attempt scheduledAt)
  | run (id : Int) (owner : Option Nat) :
      Allows (.running id owner) (.runOnce id)
  | finish (id : Int) (owner : Option Nat) (execution : Nat)
      (status : ScheduleExecutionStatus) (message : String) :
      Allows (.inside id owner) (.finish execution status message)
  | delay (id : Int) (owner : Option Nat) (seconds : Int) :
      Allows (.inside id owner) (.sleep seconds)
  | release (id : Int) (owner : Nat) :
      Allows (.inside id (some owner)) (.release id owner)
  | report (id : Int) (succeeded : Bool) (detail : String) :
      Allows .outside (.notify id succeeded detail)
  | reportOpen (id : Int) (succeeded : Bool) (detail : String) :
      Allows (.inside id none) (.notify id succeeded detail)

def RunStage.advance (stage : RunStage) (op : ScheduleOp) (answer : op.Ret) :
    RunStage :=
  match stage, op, answer with
  | .fresh id, .getById _, _ => .known id
  | .known id, .policy _, .ok policy => .planned id policy.concurrencyPolicy
  | .planned id concurrency, .newUuid, owner =>
    if concurrency = .allow then .inside id none else .asking id owner
  | .asking id owner, .acquire .., .ok true => .inside id (some owner)
  | .inside id owner, .begin .., .ok _ => .running id owner
  | .running id owner, .runOnce _, _ => .inside id owner
  | .inside _ (some _), .release .., _ => .outside
  | stage, _, _ => stage

def scheduleProtocol : Protocol ScheduleOp ScheduleOp.Ret RunStage where
  allows := RunStage.Allows
  advance := RunStage.advance

/-- The lock that was taken, the executions that were begun, and whether a
statement failed that the run does not make up for. -/
structure Ledger where
  lock : Option (Int × Nat) := none
  held : Bool := false
  begun : List Nat := []
  running : Option Nat := none
  broken : Bool := false

namespace Ledger

def note (ledger : Ledger) (op : ScheduleOp) (answer : op.Ret) : Ledger :=
  match op, answer with
  | .acquire id ownerId _, .ok true =>
    { ledger with lock := some (id, ownerId), held := true }
  | .release .., .ok _ => { ledger with held := false }
  | .begin .., .ok execution =>
    { ledger with
      begun := execution :: ledger.begun
      running := some execution }
  | .finish .., .ok _ => { ledger with running := none }
  | .markScheduled .., .error _ => { ledger with broken := ledger.held }
  | .begin .., .error _ => { ledger with broken := ledger.held }
  | .release .., .error _ => { ledger with broken := true }
  | .finish .., .error _ => { ledger with broken := true }
  | _, _ => ledger

def Allows (ledger : Ledger) : ScheduleOp → Prop
  | .acquire .. => ledger.lock = none
  | .release id ownerId => ledger.lock = some (id, ownerId)
  | .begin .. => ledger.running = none
  | .finish execution status _ =>
    ledger.running = some execution ∧ status ≠ .running
  | _ => True

/-- Nothing is open exactly when no statement has failed. -/
def Settled (ledger : Ledger) : Prop :=
  ledger.held = false ∧ ledger.running = none ↔ ledger.broken = false

end Ledger

def ledgers : Ghosts ScheduleOp ScheduleOp.Ret RunStage Ledger where
  fresh := {}
  note _ := Ledger.note
  allows _ := Ledger.Allows

abbrev runProtocol := scheduleProtocol.haunt ledgers

/-- The lock of a run at a stage. -/
def RunStage.lock : RunStage → Option (Int × Nat)
  | .inside id owner => owner.map (id, ·)
  | _ => none

/-- Between two executions: the lock is held when there is one, and no execution
is running. -/
structure Ready (stage : RunStage) (ledger : Ledger) : Prop where
  lock : ledger.lock = stage.lock
  held : ledger.held = stage.lock.isSome
  running : ledger.running = none
  broken : ledger.broken = false

variable {ledger : Ledger} {stage : RunStage}

theorem Ready.settled (ready : Ready stage ledger)
    (free : stage.lock = none) : ledger.Settled := by
  simp [Ledger.Settled, ready.held, ready.running, ready.broken, free]

theorem Ready.fail (ready : Ready stage ledger) :
    Ledger.Settled { ledger with broken := ledger.held } := by
  simp [Ledger.Settled, ready.running]

def RuntimePolicy.holder (policy : RuntimePolicy) (owner : Nat) : Option Nat :=
  if policy.concurrencyPolicy = .allow then none else some owner

/-- The stage after the lock has been given back, where there is one. -/
def RuntimePolicy.released (policy : RuntimePolicy) (id : Int) : RunStage :=
  if policy.concurrencyPolicy = .allow then .inside id none else .outside

theorem follows_releaseLock {id : Int} {owner : Nat} {policy : RuntimePolicy}
    (ready : Ready (.inside id (policy.holder owner)) ledger) :
    runProtocol.Follows (.inside id (policy.holder owner), ledger)
      (releaseLock id owner policy)
      fun _ reached => reached.1 = policy.released id ∧ reached.2.Settled := by
  rw [RuntimePolicy.holder] at ready
  rw [releaseLock, RuntimePolicy.holder, RuntimePolicy.released]
  by_cases open' : policy.concurrencyPolicy = .allow
  · rw [if_pos open'] at ready
    rw [if_pos open', if_pos open', if_pos open']
    exact ⟨rfl, ready.settled rfl⟩
  · rw [if_neg open'] at ready
    rw [if_neg open', if_neg open', if_neg open']
    refine ⟨⟨.release id owner, ready.lock⟩, fun answer => ⟨rfl, ?_⟩⟩
    change Ledger.Settled (ledger.note (.release id owner) answer)
    rcases answer with failure | done
    · simp [Ledger.note, Ledger.Settled, ready.held, RunStage.lock]
    · simp [Ledger.note, Ledger.Settled, ready.running, ready.broken]

/-- The stage in which the question for a lock has been answered. -/
def RunStage.answered (id : Int) (owner : Nat) :
    Except ScheduleError Bool → RunStage
  | .ok true => .inside id (some owner)
  | _ => .asking id owner

section Lock

variable {id : Int} {owner : Nat} (ready : Ready (.asking id owner) ledger)

include ready

theorem ready_acquire {leaseSeconds : Int}
    (answer : (ScheduleOp.acquire id owner leaseSeconds).Ret) :
    Ready (.answered id owner answer)
      (ledger.note (.acquire id owner leaseSeconds) answer) := by
  rcases answer with failure | taken
  · exact ready
  · cases taken with
    | false => exact ready
    | true => exact ⟨rfl, rfl, ready.running, ready.broken⟩

theorem follows_awaitLock (leaseSeconds deadline : Int) (tries : Nat) :
    runProtocol.Follows (.asking id owner, ledger)
      (awaitLock id owner leaseSeconds deadline tries).run
      fun outcome reached => reached.1 = .answered id owner outcome ∧
        Ready reached.1 reached.2 := by
  induction tries with
  | zero => exact ⟨rfl, ready⟩
  | succ tries induction =>
    refine ⟨⟨.ask id owner leaseSeconds, ready.lock⟩, fun answer => ?_⟩
    have answered := ready_acquire ready answer
    rcases answer with failure | taken
    · exact ⟨rfl, answered⟩
    cases taken with
    | true => exact ⟨rfl, answered⟩
    | false =>
      refine ⟨⟨.clock id owner, trivial⟩, fun now => ?_⟩
      change runProtocol.Follows (.asking id owner, ledger)
        (ExceptT.run (if deadline ≤ now then pure false else _)) _
      split
      · exact ⟨rfl, ready⟩
      · refine ⟨⟨.wait id owner 1, trivial⟩, fun _ => ?_⟩
        exact induction

end Lock

/-- Where the drawing of an owner leads. -/
def RuntimePolicy.drawn (policy : RuntimePolicy) (id : Int) (owner : Nat) :
    RunStage :=
  if policy.concurrencyPolicy = .allow then .inside id none
  else .asking id owner

theorem follows_takeLock (id : Int) (owner : Nat) (policy : RuntimePolicy)
    (ready : Ready (.asking id owner) ledger) :
    runProtocol.Follows (policy.drawn id owner, ledger)
      (takeLock id owner policy).run fun outcome reached =>
        (outcome = .ok true ∧ reached.1 = .inside id (policy.holder owner) ∨
          outcome ≠ .ok true ∧ reached.1 = .asking id owner) ∧
          Ready reached.1 reached.2 := by
  have answered : ∀ (outcome : Except ScheduleError Bool)
      (reached : RunStage × Ledger),
      reached.1 = .answered id owner outcome ∧ Ready reached.1 reached.2 →
      (outcome = .ok true ∧ reached.1 = .inside id (some owner) ∨
        outcome ≠ .ok true ∧ reached.1 = .asking id owner) ∧
        Ready reached.1 reached.2 := by
    rintro outcome reached ⟨stage, balanced⟩
    refine ⟨?_, balanced⟩
    rcases outcome with failure | taken
    · exact .inr ⟨by simp, stage⟩
    · cases taken with
      | true => exact .inl ⟨rfl, stage⟩
      | false => exact .inr ⟨by simp, stage⟩
  rw [takeLock, RuntimePolicy.drawn, RuntimePolicy.holder]
  cases policy.concurrencyPolicy with
  | allow =>
    exact ⟨.inl ⟨rfl, rfl⟩, ready.lock, ready.held, ready.running, ready.broken⟩
  | queue =>
    refine ⟨⟨.clock id owner, trivial⟩, fun now => ?_⟩
    exact (follows_awaitLock ready _ _ _).weaken answered
  | skip =>
    refine ⟨⟨.ask id owner _, ready.lock⟩, fun answer => answered answer _ ?_⟩
    have asked := ready_acquire ready answer
    rcases answer with failure | taken
    · exact ⟨rfl, asked⟩
    · cases taken <;> exact ⟨rfl, asked⟩

/-- The end of an execution that was just begun. -/
theorem follows_finish (ready : Ready stage ledger)
    {execution : Nat} {status : ScheduleExecutionStatus} {message : String}
    (permitted : stage.Allows (.finish execution status message))
    (final : status ≠ .running) {α : Type} {next : Unit → ScheduleAction α}
    {ends : Except ScheduleError α → RunStage × Ledger → Prop}
    (fails : ∀ failure ledger, ledger.Settled →
      ends (.error failure) (stage, ledger))
    (after : ∀ ledger, Ready stage ledger →
      runProtocol.Follows (stage, ledger) (next ()).run ends) :
    runProtocol.Follows
      (stage, { ledger with
        begun := execution :: ledger.begun, running := some execution })
      (ExceptT.mk (ScheduleOp.finish execution status message).perform >>=
        next).run ends := by
  refine ⟨⟨permitted, rfl, final⟩, fun finished => ?_⟩
  have stays : ∀ answer, stage.advance (.finish execution status message)
      answer = stage := by
    intro answer
    cases stage <;> rfl
  change Protocol.Follows _ (stage.advance _ finished, _) _ _
  rw [stays]
  rcases finished with failure | finished
  · exact fails failure _ (by simp [ledgers, Ledger.note, Ledger.Settled])
  · exact after _ ⟨ready.lock, ready.held, rfl, ready.broken⟩

theorem follows_runAttempts (id : Int) (trigger : Trigger)
    (policy : RuntimePolicy) (schedule : StoredSchedule)
    (owner : Option Nat) (left : Nat) (attempt : Int)
    (last : Option ScheduleError) (ready : Ready (.inside id owner) ledger) :
    runProtocol.Follows (.inside id owner, ledger)
      (runAttempts id trigger policy schedule left attempt last).run
      fun outcome reached => reached.1 = .inside id owner ∧
        match outcome with
        | .ok _ => Ready reached.1 reached.2
        | .error _ => reached.2.Settled := by
  induction left generalizing ledger attempt last with
  | zero => exact ⟨rfl, ready⟩
  | succ left induction =>
    refine ⟨⟨.start id owner _ _ _ _, ready.running⟩, fun execution => ?_⟩
    rcases execution with failure | execution
    · exact ⟨rfl, ready.fail⟩
    refine ⟨⟨.run id owner, trivial⟩, fun result => ?_⟩
    rcases result with error | message
    · refine follows_finish ready (.finish id owner _ _ _) (by simp)
        (fun _ _ settled => ⟨rfl, settled⟩) fun ledger again => ?_
      split
      · refine ⟨⟨.delay id owner _, trivial⟩, fun _ => ?_⟩
        exact induction _ _ again
      · exact induction _ _ again
    · exact follows_finish ready (.finish id owner _ _ _) (by simp)
        (fun _ _ settled => ⟨rfl, settled⟩) fun _ again => ⟨rfl, again⟩

/-- A stage at which a task may end. -/
def Resting (stage : RunStage) : Prop := stage.isBusy = false

/-- A run may end, with its ledger settled. -/
def Over (label : RunStage × Ledger) : Prop :=
  Resting label.1 ∧ label.2.Settled

theorem resting_released (id : Int) (policy : RuntimePolicy) :
    Resting (policy.released id) := by
  rw [RuntimePolicy.released]
  split <;> rfl

theorem follows_report (id : Int) (policy : RuntimePolicy) (wanted : Int)
    (succeeded : Bool) (detail : String)
    (result : Except ScheduleError String) (settled : ledger.Settled) :
    runProtocol.Follows (policy.released id, ledger)
      (do
        if wanted ≠ 0 then
          ExceptT.lift (ScheduleOp.notify id succeeded detail).perform
        ExceptT.mk (pure result) : ScheduleAction String).run
      fun _ reached => Over reached := by
  split
  · refine (Protocol.follows_liftThen _).mpr ?_
    rw [RuntimePolicy.released]
    split
    · exact ⟨⟨.reportOpen id succeeded detail, trivial⟩,
        fun _ => ⟨rfl, settled⟩⟩
    · exact ⟨⟨.report id succeeded detail, trivial⟩, fun _ => ⟨rfl, settled⟩⟩
  · exact ⟨resting_released id policy, settled⟩

section Locked

variable {id : Int} {trigger : Trigger} {policy : RuntimePolicy} {owner : Nat}
  (ready : Ready (.inside id (policy.holder owner)) ledger)

include ready

theorem follows_runEnabled (schedule : StoredSchedule) :
    runProtocol.Follows (.inside id (policy.holder owner), ledger)
      (runEnabled id trigger policy owner schedule).run
      fun _ reached => Over reached := by
  refine ⟨⟨.scheduled id _ _, trivial⟩, fun marked => ?_⟩
  rcases marked with failure | marked
  · exact ⟨rfl, ready.fail⟩
  refine (Protocol.follows_andThen _).mpr ?_
  apply (follows_runAttempts id trigger policy schedule _ _ _ _ ready).weaken
  rintro outcome ⟨_, ledger⟩ ⟨rfl, left⟩
  rcases outcome with failure | outcome
  · exact ⟨rfl, left⟩
  refine (Protocol.follows_liftThen _).mpr ?_
  apply (follows_releaseLock left).weaken
  rintro _ ⟨_, ledger⟩ ⟨rfl, settled⟩
  rcases outcome with error | message
  · exact follows_report id policy policy.notifyOnFailure false error.text
      (.error error) settled
  · exact follows_report id policy policy.notifyOnSuccess true message
      (.ok message) settled

theorem follows_runLocked :
    runProtocol.Follows (.inside id (policy.holder owner), ledger)
      (runLocked id trigger policy owner).run
      fun _ reached => Over reached := by
  have gives : ∀ error, runProtocol.Follows
      (.inside id (policy.holder owner), ledger)
      (do
        ExceptT.lift (releaseLock id owner policy)
        throw error : ScheduleAction String).run
      fun _ reached => Over reached := by
    intro error
    refine (Protocol.follows_liftThen _).mpr ?_
    apply (follows_releaseLock ready).weaken
    rintro _ ⟨_, ledger⟩ ⟨rfl, settled⟩
    exact ⟨resting_released id policy, settled⟩
  refine ⟨⟨.again id _, trivial⟩, fun answer => ?_⟩
  rcases answer with error | schedule
  · cases error with
    | rowNotFound => exact gives _
    | protocol message => exact gives _
    | database message => exact gives _
  · change runProtocol.Follows (.inside id (policy.holder owner), ledger)
      (ExceptT.run (if schedule.enabled ≠ 0 then _ else _)) _
    split
    · exact follows_runEnabled ready schedule
    · exact gives _

end Locked

theorem settles_runWithPolicy (id : Int) (trigger : Trigger) :
    runProtocol.Follows (.fresh id, {}) (runWithPolicy id trigger).run
      fun _ reached => Over reached := by
  have free : ∀ stage, stage.lock = none → Ready stage {} := by
    intro stage none
    exact ⟨none.symm, by rw [none]; rfl, rfl, rfl⟩
  have nothing : Ledger.Settled {} := by
    simp [Ledger.Settled]
  refine ⟨⟨.look id, trivial⟩, fun found => ?_⟩
  rcases found with failure | schedule
  · exact ⟨rfl, nothing⟩
  change runProtocol.Follows (.known id, {})
    (ExceptT.run (if schedule.enabled = 0 then _ else _)) _
  split
  · exact ⟨rfl, nothing⟩
  refine ⟨⟨.choose id, trivial⟩, fun policy => ?_⟩
  rcases policy with failure | policy
  · exact ⟨rfl, nothing⟩
  refine ⟨⟨.draw id _, trivial⟩, fun owner => ?_⟩
  refine (Protocol.follows_andThen _).mpr ?_
  apply (follows_takeLock id owner policy (free _ rfl)).weaken
  rintro outcome ⟨_, ledger⟩ ⟨⟨rfl, rfl⟩ | ⟨other, rfl⟩, ready⟩
  · exact follows_runLocked ready
  · rcases outcome with failure | taken
    · exact ⟨rfl, ready.settled rfl⟩
    cases taken with
    | true => exact absurd rfl other
    | false =>
      refine ⟨⟨.skip id owner _ _ _ _, ready.running⟩, fun execution => ?_⟩
      rcases execution with failure | execution
      · exact ⟨rfl, ready.fail⟩
      · exact follows_finish ready (.skipped id owner _ _ _) (by simp)
          (fun _ _ settled => ⟨rfl, settled⟩)
          fun _ again => ⟨rfl, again.settled rfl⟩

theorem follows_runWithPolicy (id : Int) (trigger : Trigger) :
    scheduleProtocol.Follows (.fresh id) (runWithPolicy id trigger).run
      fun _ reached => Resting reached :=
  ((settles_runWithPolicy id trigger).weaken fun _ _ ended => ended.1).forget

end OpenOxide.Scheduling
