import OpenOxide.Concurrency.Sequential
import OpenOxide.Scheduling.Exclusion

/-!
# What a run leaves in the tables

The ledger of a run agrees with the tables after every operation.  So at the end
the row of the lock is gone and no execution of the run is `RUNNING` exactly when
no statement has failed that the run does not make up for.
-/

namespace OpenOxide.Scheduling

open Concurrency

namespace ScheduleStore

def ownedBy (store : ScheduleStore) (lock : Int × Nat) : Bool :=
  (store.locks lock.1).any fun row => row.ownerId == lock.2

def isRunning (store : ScheduleStore) (execution : Nat) : Bool :=
  store.executions.any fun row => row.id == execution && row.status == .running

variable {store : ScheduleStore}

theorem isRunning_begin {scheduleId : Int} {organizationId : Option Int}
    {kind : ScheduleTriggerKind} {attempt scheduledAt : Int} (execution : Nat) :
    (store.begin scheduleId organizationId kind attempt
        scheduledAt).1.isRunning execution =
      (store.isRunning execution || store.nextExecution == execution) := by
  simp [isRunning, begin]

theorem isRunning_finish {ended : Nat} {status : ScheduleExecutionStatus}
    {message : String} (final : status ≠ .running) (execution : Nat) :
    (store.finish ended status message).isRunning execution =
      (store.isRunning execution && ended != execution) := by
  rw [isRunning, finish, List.any_map]
  by_cases same : ended = execution
  · simp only [same, bne_self_eq_false, Bool.and_false, List.any_eq_false]
    intro row _
    by_cases own : row.id = execution <;> simp [own, final]
  · simp only [bne_iff_ne.mpr same, Bool.and_true, isRunning]
    congr 1
    funext row
    by_cases own : row.id = ended
    · simp [own, beq_false_of_ne same]
    · simp [own]

end ScheduleStore

/-- The lock of the ledger is in the table while it is held, and of its executions
only the running one is `RUNNING`. -/
structure Ledger.Agrees (ledger : Ledger) (store : ScheduleStore) : Prop where
  lock : ledger.lock.any store.ownedBy = ledger.held
  begun : ∀ execution ∈ ledger.begun,
    store.isRunning execution = (ledger.running == some execution)
  running : ∀ execution, ledger.running = some execution →
    execution ∈ ledger.begun

theorem Ledger.Agrees.performOp {ledger : Ledger} {store : ScheduleStore}
    (agrees : ledger.Agrees store) (op : ScheduleOp) (input : ScheduleInput)
    (allowed : ledger.Allows op) :
    (ledger.note op (performOp op input store).2).Agrees
      (performOp op input store).1 := by
  obtain ⟨lock, begun, running⟩ := agrees
  cases op with
  | newUuid | now | sleep | notify => exact ⟨lock, begun, running⟩
  | getById | runOnce | policy | markScheduled =>
    simp only [Scheduling.performOp, ScheduleInput.attempt,
      ScheduleStore.policy, ScheduleStore.markScheduled]
    repeat' split
    all_goals exact ⟨lock, begun, running⟩
  | acquire =>
    rw [Scheduling.performOp, ScheduleInput.attempt, ScheduleStore.acquire]
    split
    · exact ⟨lock, begun, running⟩
    · split
      · refine ⟨?_, begun, running⟩
        simp [ScheduleStore.ownedBy, ScheduleStore.setLock, note]
      · exact ⟨lock, begun, running⟩
  | release id owner =>
    rw [Scheduling.performOp, ScheduleInput.attempt]
    split
    · exact ⟨lock, begun, running⟩
    · refine ⟨?_, fun execution member => ?_, running⟩
      · change ledger.lock.any (store.release id owner).ownedBy = false
        rw [show ledger.lock = some (id, owner) from allowed]
        rw [ScheduleStore.release]
        split
        next => simp [ScheduleStore.ownedBy, ScheduleStore.setLock]
        next absent => simpa [ScheduleStore.ownedBy] using absent
      · rw [ScheduleStore.release]
        split <;> exact begun execution member
  | begin scheduleId organizationId kind attempt scheduledAt =>
    rw [Scheduling.performOp, ScheduleInput.attempt]
    split
    · exact ⟨lock, begun, running⟩
    · refine ⟨lock, fun execution member => ?_, ?_⟩
      · rw [ScheduleStore.isRunning_begin]
        rcases List.mem_cons.mp member with rfl | earlier
        · simp [note, ScheduleStore.begin]
        · rw [begun execution earlier, show ledger.running = none from allowed]
          simp [note, ScheduleStore.begin]
      · rintro execution ⟨⟩
        exact List.mem_cons_self
  | finish ended status message =>
    obtain ⟨open', final⟩ := allowed
    rw [Scheduling.performOp, ScheduleInput.attempt]
    split
    · exact ⟨lock, begun, running⟩
    · refine ⟨lock, fun execution member => ?_, by simp [note]⟩
      rw [ScheduleStore.isRunning_finish final, begun execution member, open']
      by_cases same : ended = execution <;> simp [note, same]

theorem Ledger.Agrees.scheduleExec {ledger : Ledger} {store : ScheduleStore}
    (agrees : ledger.Agrees store) (op : ScheduleOp) (input : ScheduleInput)
    (allowed : ledger.Allows op) :
    (ledger.note op (scheduleExec op input store).2).Agrees
      (scheduleExec op input store).1 := by
  have later : ledger.Agrees (input.later store) :=
    ⟨agrees.lock, agrees.begun, agrees.running⟩
  exact later.performOp op input allowed

theorem Ledger.Agrees.closed_iff {ledger : Ledger} {store : ScheduleStore}
    (agrees : ledger.Agrees store) :
    (∀ lock ∈ ledger.lock, store.ownedBy lock = false) ∧
        (∀ execution ∈ ledger.begun, store.isRunning execution = false) ↔
      ledger.held = false ∧ ledger.running = none := by
  refine and_congr ?_ ?_
  · rw [← agrees.lock]
    cases ledger.lock <;> simp
  · constructor
    · intro closed
      cases named : ledger.running with
      | none => rfl
      | some execution =>
        have member := agrees.running execution named
        have running := agrees.begun execution member
        rw [closed execution member, named] at running
        simp at running
    · intro none execution member
      rw [agrees.begun execution member, none]
      rfl

/-- Whatever its statements answer, a run has come to its end with no lock of its
own in the table and none of its executions `RUNNING` exactly when no
`mark_scheduled` or `begin` has failed while it held a lock, and no `finish` and no
`release`. -/
theorem run_closed_iff (id : Int) (trigger : Trigger)
    (fed : Fed ScheduleStore ScheduleInput) :
    let ledger := (runProtocol.along (Fed.feed scheduleExec) (.fresh id, {})
      (runWithPolicy id trigger).run fed).2
    let store := ((runWithPolicy id trigger).run.eval
      (Fed.feed scheduleExec) fed).1.state
    (∀ lock ∈ ledger.lock, store.ownedBy lock = false) ∧
        (∀ execution ∈ ledger.begun, store.isRunning execution = false) ↔
      ledger.broken = false := by
  have start : Ledger.Agrees {} fed.state := ⟨rfl, nofun, nofun⟩
  obtain ⟨ended, agrees⟩ := (settles_runWithPolicy id trigger).eval
    (Fed.feed scheduleExec) (fun label fed => label.2.Agrees fed.state)
    (fun label op fed allowed agrees => agrees.scheduleExec op _ allowed.2) start
  exact agrees.closed_iff.trans ended.2

/-- The last of the statements about the execution fails: its lock stays in the
table, and the execution is `RUNNING`. -/
theorem failed_finish_leaves_open :
    let run := (runWithPolicy 1 ⟨.cron, 0⟩).run.eval (Fed.feed scheduleExec)
      ⟨nightly.state, fun position =>
        ⟨0, if position = 8 then some .rowNotFound else none, ""⟩⟩
    run.1.state.ownedBy (1, 0) = true ∧ run.1.state.isRunning 0 = true := by
  decide +kernel

end OpenOxide.Scheduling
