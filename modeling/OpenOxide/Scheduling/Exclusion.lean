import OpenOxide.Scheduling.Stages

/-!
# Executions of one schedule

With the policies `SKIP` and `QUEUE` a run executes its schedule while it is the
owner of the lock, as long as its lease lasts.  In every run in which the lock is
asked for only while the lease of the run in progress has not expired, at most
one execution of such a schedule is running.
-/

namespace OpenOxide.Scheduling

open Concurrency

/-- The calls that execute a schedule. -/
inductive ScheduleCall where
  | run (id : Int) (trigger : Trigger)
  | recoverMissed (id : Int) (cronExpression : String)

/-- Changes of a schedule and of its policy that keep the policy's kind. -/
inductive ScheduleEdit where
  | setEnabled (id enabled : Int)
  | setNumbers (id retryCount retryDelaySeconds leaseSeconds : Int)

def ScheduleEdit.apply (store : ScheduleStore) : ScheduleEdit → ScheduleStore
  | .setEnabled id enabled =>
    { store with
      schedules := fun other =>
        if other = id then
          (store.schedules id).map fun schedule => { schedule with enabled }
        else store.schedules other }
  | .setNumbers id retryCount retryDelaySeconds leaseSeconds =>
    (store.policy id).1.setPolicy id
      { (store.policy id).2 with
        retryCount, retryDelaySeconds, leaseSeconds }

abbrev ScheduleTask := Task ScheduleOp ScheduleOp.Ret RunStage

variable (next : NextOccurrence)

def ScheduleCall.task : ScheduleCall → ScheduleTask
  | .run id trigger => ⟨.fresh id, do
      let _ ← (runWithPolicy id trigger).run
      pure ()⟩
  | .recoverMissed id cronExpression => ⟨.fresh id, do
      let _ ← (Scheduling.recoverMissed next id cronExpression).run
      pure ()⟩

abbrev ScheduleMachine := Machine ScheduleOp ScheduleOp.Ret ScheduleStore
  ScheduleInput RunStage ScheduleCall ScheduleEdit

abbrev ScheduleGuard := Guard ScheduleOp ScheduleOp.Ret ScheduleStore
  ScheduleInput RunStage ScheduleCall

abbrev ScheduleView := View ScheduleOp ScheduleOp.Ret ScheduleStore RunStage

abbrev SchedulePool := Pool ScheduleOp ScheduleOp.Ret ScheduleStore RunStage

/-- A panic ends the process, and a restart finds the tables as they were.  An
error ends a run at any stage but in the middle of an execution. -/
def scheduleMachine : ScheduleMachine where
  protocol := scheduleProtocol
  ready _ _ := true
  exec := scheduleExec
  children _ := []
  serve := ScheduleCall.task next
  unwind _ := none
  signal edit store := edit.apply store
  restart store := store
  ended stage := stage.isBusy = false

theorem follows_recoverMissed (id : Int) (cronExpression : String) :
    scheduleProtocol.Follows (.fresh id)
      (recoverMissed next id cronExpression).run
      fun _ reached => Resting reached := by
  refine ⟨.lookUp id, fun policy => ?_⟩
  rcases policy with failure | policy
  · rfl
  refine ⟨.compare id, fun now => ?_⟩
  cases policy.lastScheduledAt with
  | none =>
    refine ⟨.mark id now, fun marked => ?_⟩
    rcases marked with failure | marked
    · rfl
    · rfl
  | some last =>
    change scheduleProtocol.Follows (.fresh id)
      (ExceptT.run (if policy.missedRunPolicy = .runOnce then _ else _)) _
    split
    · refine (Protocol.follows_andThen _).mpr ?_
      cases next cronExpression last with
      | error failure => rfl
      | ok occurrence =>
        change scheduleProtocol.Follows (.fresh id)
          (ExceptT.run (if occurrence ≤ now then _ else _)) _
        split
        · refine (Protocol.follows_andThen _).mpr ?_
          apply (follows_runWithPolicy id ⟨.missed, occurrence⟩).weaken
          intro outcome reached resting
          rcases outcome with failure | message
          · exact resting
          · exact resting
        · rfl
    · rfl

theorem schedule_sound : (scheduleMachine next).Sound := by
  constructor
  · intro op task member
    cases member
  · intro call
    cases call with
    | run id trigger =>
      exact (Protocol.follows_bind _).mpr (follows_runWithPolicy id trigger)
    | recoverMissed id cronExpression =>
      exact (Protocol.follows_bind _).mpr
        (follows_recoverMissed next id cronExpression)
  · intro label task handled
    cases handled

/-- The lock of a schedule is asked for only while the lease of a run that has
taken it and goes on has not expired. -/
def leasesLast : ScheduleGuard where
  op view _ op input :=
    match op with
    | .acquire id _ _ => (∃ stage ∈ view.labels, stage.holds id = true) →
        ∀ lock, view.state.locks id = some lock →
          view.state.clock + input.elapsed < lock.expiresAt
    | _ => True
  unwind _ _ := True
  arrive _ _ := True
  restart := True

/-- The stage is one that a schedule without `ALLOW` can have. -/
def RunStage.isExclusive (id : Int) : RunStage → Bool
  | .planned other concurrency => other != id || concurrency != .allow
  | .inside other owner => other != id || owner.isSome
  | .running other owner => other != id || owner.isSome
  | _ => true

/-- A schedule without `ALLOW`. -/
def Exclusive (id : Int) (store : ScheduleStore) : Prop :=
  ∀ policy, store.policies id = some policy →
    policy.concurrencyPolicy ≠ .allow

def hasOwner (owner : Nat) (stage : RunStage) : Bool :=
  stage.owner == some owner

/-- Owners are drawn once, a run that holds the lock of the schedule is the owner
of the row, and no run of the schedule goes without the lock. -/
structure Guarded (id : Int) (view : ScheduleView) : Prop where
  drawn : ∀ stage ∈ view.labels, ∀ owner, stage.owner = some owner →
    owner < view.state.nextUuid
  single : ∀ owner, view.labels.countP (hasOwner owner) ≤ 1
  held : ∀ stage ∈ view.labels, stage.holds id = true →
    ∃ lock, view.state.locks id = some lock ∧
      stage.owner = some lock.ownerId
  exclusive : ∀ stage ∈ view.labels, stage.isExclusive id = true
  policy : Exclusive id view.state

variable {locking : Bool} {state : ScheduleStore} {other : Int}

section Exec

variable {op : ScheduleOp} {input : ScheduleInput} {store : ScheduleStore}

def ScheduleOp.isLocking : ScheduleOp → Bool
  | .acquire .. => true
  | .release .. => true
  | _ => false

/-- The locks change in locking operations only, owners are drawn from the
counter, and the kind of a policy stays. -/
structure Kept (locking : Bool) (before after : ScheduleStore) : Prop where
  locks : locking = false → after.locks = before.locks
  uuid : before.nextUuid ≤ after.nextUuid
  exclusive : ∀ id, Exclusive id before → Exclusive id after

theorem Kept.attempt {α : Type} {result : ScheduleStore × α}
    (kept : Kept locking store result.1) :
    Kept locking store (input.attempt store result).1 := by
  rw [ScheduleInput.attempt]
  cases input.fault with
  | none => exact kept
  | some failure => exact ⟨fun _ => rfl, Nat.le_refl _, fun _ known => known⟩

theorem Exclusive.setPolicy {id other : Int} {policy : RuntimePolicy}
    (exclusive : Exclusive id store)
    (kind : other = id → policy.concurrencyPolicy ≠ .allow) :
    Exclusive id (store.setPolicy other policy) := by
  intro found stored
  change (if id = other then some policy else store.policies id) =
    some found at stored
  by_cases same : id = other
  · rw [if_pos same] at stored
    rw [← Option.some.inj stored]
    exact kind same.symm
  · rw [if_neg same] at stored
    exact exclusive found stored

theorem kept_performOp : Kept op.isLocking store (performOp op input store).1 := by
  have same : ∀ locking, Kept locking store store := fun locking =>
    ⟨fun _ => rfl, Nat.le_refl _, fun _ known => known⟩
  cases op with
  | getById id =>
    rw [performOp]
    split <;> exact same _
  | policy id =>
    apply Kept.attempt
    rw [ScheduleStore.policy]
    split
    next _ _ => exact same _
    next missing =>
      exact ⟨fun _ => rfl, Nat.le_refl _, fun other exclusive =>
        exclusive.setPolicy fun _ => by simp⟩
  | newUuid => exact ⟨fun _ => rfl, Nat.le_succ _, fun _ known => known⟩
  | now => exact same _
  | sleep seconds => exact ⟨fun _ => rfl, Nat.le_refl _, fun _ known => known⟩
  | acquire | release =>
    apply Kept.attempt
    simp only [ScheduleStore.acquire, ScheduleStore.release]
    split <;>
      exact ⟨(fun calm => nomatch calm), Nat.le_refl _, fun _ known => known⟩
  | markScheduled id timestamp =>
    apply Kept.attempt
    rw [ScheduleStore.markScheduled]
    split
    next policy found =>
      refine ⟨fun _ => rfl, Nat.le_refl _, fun other exclusive =>
        exclusive.setPolicy fun equal => ?_⟩
      exact exclusive policy (equal ▸ found)
    next _ => exact same _
  | runOnce id => exact Kept.attempt (same _)
  | begin | finish =>
    exact Kept.attempt ⟨fun _ => rfl, Nat.le_refl _, fun _ known => known⟩
  | notify => exact same _

theorem kept_exec : Kept op.isLocking store (scheduleExec op input store).1 := by
  have kept := @kept_performOp op input (input.later store)
  exact ⟨kept.locks, kept.uuid, kept.exclusive⟩

end Exec

section Answers

variable {id : Int} {input : ScheduleInput} {store : ScheduleStore}

theorem policy_answer {policy : RuntimePolicy} (exclusive : Exclusive id store)
    (answer : (scheduleExec (.policy other) input store).2 = .ok policy) :
    other ≠ id ∨ policy.concurrencyPolicy ≠ .allow := by
  by_cases same : other = id
  · right
    subst same
    change (input.attempt (input.later store)
      ((input.later store).policy other)).2 = _ at answer
    rw [ScheduleInput.attempt] at answer
    cases fault : input.fault with
    | some failure =>
      rw [fault] at answer
      cases answer
    | none =>
      rw [fault] at answer
      have equal : ((input.later store).policy other).2 = policy :=
        Except.ok.inj answer
      rw [← equal, ScheduleStore.policy]
      split
      next found stored => exact exclusive found stored
      next _ => simp
  · exact .inl same

theorem Kept.calm {before after : ScheduleStore}
    (kept : Kept locking before after) (same : after.locks = before.locks) :
    Kept false before after :=
  ⟨fun _ => same, kept.uuid, kept.exclusive⟩

/-- A lock is taken when it was free, or else nothing happens to it. -/
theorem acquire_cases {owner : Nat} {leaseSeconds : Int}
    {answer : (ScheduleOp.acquire other owner leaseSeconds).Ret}
    (ran : scheduleExec (.acquire other owner leaseSeconds) input store =
      (state, answer)) :
    (∃ lock : ExecutionLock, lock.ownerId = owner ∧ answer = .ok true ∧
        state = (input.later store).setLock other (some lock) ∧
        (input.later store).isFree other = true) ∨
      answer ≠ .ok true ∧ state = input.later store := by
  change input.attempt (input.later store)
    ((input.later store).acquire other owner leaseSeconds) = _ at ran
  rw [ScheduleInput.attempt, ScheduleStore.acquire] at ran
  split at ran
  · cases ran
    exact .inr ⟨by simp, rfl⟩
  · cases free : (input.later store).isFree other with
    | true =>
      rw [free] at ran
      cases ran
      exact .inl ⟨⟨owner, _, _⟩, rfl, rfl, rfl, rfl⟩
    | false =>
      rw [free] at ran
      cases ran
      exact .inr ⟨by simp, rfl⟩

theorem release_locks (other : Int) (owner : Nat) (input : ScheduleInput)
    (store : ScheduleStore) (different : other ≠ id) :
    (scheduleExec (.release other owner) input store).1.locks id =
      store.locks id := by
  change (input.attempt (input.later store)
    ((input.later store).release other owner, ())).1.locks id = _
  rw [ScheduleInput.attempt, ScheduleStore.release]
  cases input.fault with
  | some failure => rfl
  | none =>
    dsimp only
    split
    · exact if_neg (Ne.symm different)
    · rfl

theorem exclusive_edit (exclusive : Exclusive id store)
    (edit : ScheduleEdit) : Exclusive id (edit.apply store) := by
  cases edit with
  | setEnabled other enabled => exact exclusive
  | setNumbers =>
    rw [ScheduleEdit.apply, ScheduleStore.policy]
    split
    next policy found =>
      exact exclusive.setPolicy fun same => exclusive policy (same ▸ found)
    next _ =>
      exact (exclusive.setPolicy fun _ => by simp).setPolicy fun _ => by simp

theorem locks_edit (store : ScheduleStore) (edit : ScheduleEdit) :
    (edit.apply store).locks = store.locks ∧
      (edit.apply store).nextUuid = store.nextUuid := by
  cases edit with
  | setEnabled other enabled => exact ⟨rfl, rfl⟩
  | setNumbers =>
    rw [ScheduleEdit.apply, ScheduleStore.policy]
    split <;> exact ⟨rfl, rfl⟩

end Answers

section Steps

variable {id : Int} {view : ScheduleView} {labels : List RunStage}
  {label reached : RunStage} {next : NextOccurrence}
  {history : List (Entry ScheduleOp ScheduleOp.Ret RunStage)}

theorem Guarded.idle (idle : view.labels = [])
    (policy : Exclusive id view.state) : Guarded id view where
  drawn stage member := by simp [idle] at member
  single owner := by simp [idle]
  held stage member := by simp [idle] at member
  exclusive stage member := by simp [idle] at member
  policy := policy

namespace Guarded

variable (guarded : Guarded id view)

include guarded

theorem moves (replaced : Replaced (scheduleMachine next).ended label reached []
      view.labels labels) (kept : Kept locking view.state state)
    (owner : ∀ owner, reached.owner = some owner →
      label.owner = some owner ∨
        owner = view.state.nextUuid ∧ owner < state.nextUuid)
    (held : ∀ stage ∈ labels, stage.holds id = true →
      ∃ lock, state.locks id = some lock ∧ stage.owner = some lock.ownerId)
    (exclusive : reached.isExclusive id = true) :
    Guarded id ⟨state, labels, history⟩ := by
  constructor
  · intro stage member found known
    rcases replaced.mem_alone member with old | rfl
    · exact Nat.lt_of_lt_of_le (guarded.drawn stage old found known) kept.uuid
    · rcases owner found known with same | ⟨-, bound⟩
      · exact Nat.lt_of_lt_of_le
          (guarded.drawn label replaced.label_mem found same) kept.uuid
      · exact bound
  · intro found
    refine replaced.countP_le_one (guarded.single found) fun now => ?_
    refine (owner found (beq_iff_eq.mp now)).imp ?_ ?_
    · intro same
      rw [hasOwner, same, beq_self_eq_true]
    · rintro ⟨equal, -⟩
      rw [List.countP_eq_zero]
      intro stage member known
      have bound := guarded.drawn stage member found (beq_iff_eq.mp known)
      omega
  · exact held
  · intro stage member
    rcases replaced.mem_alone member with old | rfl
    · exact guarded.exclusive stage old
    · exact exclusive
  · exact kept.exclusive id guarded.policy

theorem quiet (replaced : Replaced (scheduleMachine next).ended label reached []
      view.labels labels) (kept : Kept false view.state state)
    (owner : ∀ owner, reached.owner = some owner →
      label.owner = some owner ∨
        owner = view.state.nextUuid ∧ owner < state.nextUuid)
    (holds : reached.holds id = true →
      label.holds id = true ∧ reached.owner = label.owner)
    (exclusive : reached.isExclusive id = true) :
    Guarded id ⟨state, labels, history⟩ := by
  refine guarded.moves replaced kept owner ?_ exclusive
  intro stage member holding
  rw [kept.locks rfl]
  rcases replaced.mem_alone member with old | rfl
  · exact guarded.held stage old holding
  · obtain ⟨before, same⟩ := holds holding
    rw [same]
    exact guarded.held label replaced.label_mem before

theorem stays (replaced : Replaced (scheduleMachine next).ended label label []
      view.labels labels) (kept : Kept false view.state state) :
    Guarded id ⟨state, labels, history⟩ :=
  guarded.quiet replaced kept (fun _ same => .inl same)
    (fun holding => ⟨holding, rfl⟩)
    (guarded.exclusive label replaced.label_mem)

variable {input : ScheduleInput} {store : ScheduleStore}

theorem draw {concurrency : ConcurrencyPolicy}
    (replaced : Replaced (scheduleMachine next).ended
      (.planned other concurrency)
      (if concurrency = .allow then .inside other none
        else .asking other view.state.nextUuid) [] view.labels labels) :
    Guarded id ⟨(scheduleExec .newUuid input view.state).1, labels,
      history⟩ := by
  have kept := @kept_exec .newUuid input view.state
  by_cases allow : concurrency = .allow
  · rw [if_pos allow] at replaced
    refine guarded.quiet replaced kept (fun _ none => nomatch none)
      (fun holding => ?_) ?_
    · rw [RunStage.holds, Option.isSome_none, Bool.and_false] at holding
      cases holding
    · have known := guarded.exclusive _ replaced.label_mem
      rw [RunStage.isExclusive, allow, bne_self_eq_false, Bool.or_false]
        at known
      rw [RunStage.isExclusive, known, Bool.true_or]
  · rw [if_neg allow] at replaced
    refine guarded.quiet replaced kept (fun owner same => .inr ?_)
      (fun none => nomatch none) rfl
    rw [← Option.some.inj same]
    exact ⟨rfl, Nat.lt_succ_self _⟩

theorem ask {owner : Nat}
    {leaseSeconds : Int}
    {answer : (ScheduleOp.acquire other owner leaseSeconds).Ret}
    (ran : scheduleExec (.acquire other owner leaseSeconds) input view.state =
      (state, answer))
    (replaced : Replaced (scheduleMachine next).ended (.asking other owner)
      ((RunStage.asking other owner).advance
        (.acquire other owner leaseSeconds) answer) [] view.labels labels)
    (lasts : (∃ stage ∈ view.labels, stage.holds other = true) →
      ∀ lock, view.state.locks other = some lock →
        view.state.clock + input.elapsed < lock.expiresAt) :
    Guarded id ⟨state, labels, history⟩ := by
  have kept := @kept_exec (.acquire other owner leaseSeconds) input view.state
  rw [ran] at kept
  rcases acquire_cases ran with
    ⟨lock, owned, rfl, rfl, free⟩ | ⟨refused, rfl⟩
  · refine guarded.moves replaced kept (fun _ same => .inl same) ?_ (by
      simp [RunStage.advance, RunStage.isExclusive])
    intro stage member holding
    change ∃ found, (if id = other then some lock else view.state.locks id) =
      some found ∧ _
    by_cases same : id = other
    · rw [if_pos same]
      refine ⟨lock, rfl, ?_⟩
      rcases replaced.mem_alone member with old | rfl
      · obtain ⟨current, stored, -⟩ := guarded.held stage old holding
        have later := lasts ⟨stage, old, same ▸ holding⟩ current
          (same ▸ stored)
        have expired : current.expiresAt ≤ view.state.clock + input.elapsed := by
          have stored : (input.later view.state).locks id = some current :=
            stored
          rw [← same, ScheduleStore.isFree, stored] at free
          exact of_decide_eq_true free
        omega
      · rw [owned]
        rfl
    · rw [if_neg same]
      rcases replaced.mem_alone member with old | rfl
      · exact guarded.held stage old holding
      · have equal : (other == id && true) = true := holding
        rw [Bool.and_true, beq_iff_eq] at equal
        exact absurd equal.symm same
  · have stays : (RunStage.asking other owner).advance
        (.acquire other owner leaseSeconds) answer = .asking other owner := by
      rcases answer with failure | taken
      · rfl
      · cases taken with
        | true => exact absurd rfl refused
        | false => rfl
    rw [stays] at replaced
    exact guarded.stays replaced (kept.calm rfl)

theorem release {owner : Nat} {input : ScheduleInput}
    (replaced : Replaced (scheduleMachine next).ended
      (.inside other (some owner)) .outside [] view.labels labels) :
    Guarded id ⟨(scheduleExec (.release other owner) input view.state).1,
      labels, history⟩ := by
  have kept := @kept_exec (.release other owner) input view.state
  refine guarded.moves replaced kept (fun _ none => nomatch none) ?_ rfl
  intro stage member holding
  rcases replaced.mem_alone member with old | rfl
  · by_cases same : other = id
    · obtain ⟨lock, stored, owned⟩ := guarded.held stage old holding
      obtain ⟨current, found, mine⟩ := guarded.held _ replaced.label_mem (by
        rw [RunStage.holds, same, beq_self_eq_true]
        rfl)
      rw [stored] at found
      cases found
      have mine : owner = lock.ownerId := Option.some.inj mine
      have count := replaced.countP_le (hasOwner owner)
      have before := guarded.single owner
      have still : 0 < labels.countP (hasOwner owner) :=
        List.countP_pos_iff.mpr ⟨stage, member, by
          rw [hasOwner, owned, mine, beq_self_eq_true]⟩
      rw [hasOwner, RunStage.owner, beq_self_eq_true, Bool.toNat_true,
        List.countP_nil] at count
      change _ ≤ _ + 0 + 0 at count
      omega
    · rw [release_locks other owner input view.state same]
      exact guarded.held stage old holding
  · cases holding

theorem operation {op : ScheduleOp}
    (replaced : Replaced (scheduleMachine next).ended label
      (label.advance op (scheduleExec op input view.state).2) []
      view.labels labels)
    (allowed : label.Allows op)
    (permitted : leasesLast.op view label op input) :
    Guarded id ⟨(scheduleExec op input view.state).1, labels, history⟩ := by
  have kept := @kept_exec op input view.state
  cases allowed with
  | lookUp | compare | mark | clock | wait | skip | skipped | again
  | scheduled | finish | delay | report | reportOpen =>
    exact guarded.stays replaced kept
  | look other =>
    exact guarded.quiet replaced kept (fun _ none => nomatch none)
      (fun none => nomatch none) rfl
  | choose other =>
    cases answer : (scheduleExec (.policy other) input view.state).2 with
    | error failure =>
      rw [answer] at replaced
      exact guarded.stays replaced kept
    | ok policy =>
      rw [answer] at replaced
      refine guarded.quiet replaced kept (fun _ none => nomatch none)
        (fun none => nomatch none) ?_
      have kind := policy_answer guarded.policy answer
      change (other != id || policy.concurrencyPolicy != .allow) = true
      rw [Bool.or_eq_true, bne_iff_ne, bne_iff_ne]
      exact kind
  | draw other concurrency => exact guarded.draw replaced
  | ask => exact guarded.ask rfl replaced permitted
  | start other owner organizationId kind attempt scheduledAt =>
    cases answer : (scheduleExec (.begin other organizationId kind attempt
        scheduledAt) input view.state).2 with
    | error failure =>
      rw [answer] at replaced
      exact guarded.stays replaced kept
    | ok execution =>
      rw [answer] at replaced
      exact guarded.quiet replaced kept (fun _ same => .inl same)
        (fun holding => ⟨holding, rfl⟩)
        (guarded.exclusive (.inside other owner) replaced.label_mem)
  | run other owner =>
    exact guarded.quiet replaced kept (fun _ same => .inl same)
      (fun holding => ⟨holding, rfl⟩)
      (guarded.exclusive (.running other owner) replaced.label_mem)
  | release other owner => exact guarded.release replaced

theorem step {after : ScheduleView}
    (step : View.Step (scheduleMachine next) leasesLast view after) :
    Guarded id after := by
  cases step with
  | op replaced allowed ready permitted =>
    exact guarded.operation replaced allowed permitted
  | unwind _ handled _ => cases handled
  | arrive call _ left =>
    have fresh : ∃ other, (call.task next).label = .fresh other := by
      cases call with
      | run other trigger => exact ⟨other, rfl⟩
      | recoverMissed other cronExpression => exact ⟨other, rfl⟩
    obtain ⟨other, fresh⟩ := fresh
    rcases left with rfl | ⟨rfl, -⟩
    · change Guarded id ⟨_, view.labels ++ [(call.task next).label], _⟩
      rw [fresh]
      constructor
      · simpa [or_imp, forall_and, RunStage.owner] using guarded.drawn
      · intro owner
        rw [List.countP_append]
        exact guarded.single owner
      · simpa [or_imp, forall_and, RunStage.holds] using guarded.held
      · simpa [or_imp, forall_and, RunStage.isExclusive] using
          guarded.exclusive
      · exact guarded.policy
    · rw [List.append_nil]
      exact guarded
  | signal edit =>
    obtain ⟨locks, uuid⟩ := locks_edit view.state edit
    constructor
    · exact uuid.symm ▸ guarded.drawn
    · exact guarded.single
    · exact locks.symm ▸ guarded.held
    · exact guarded.exclusive
    · exact exclusive_edit guarded.policy edit
  | restart _ => exact .idle rfl guarded.policy

end Guarded

end Steps

/-- All executions of the schedule are those of the owner of its lock. -/
theorem Guarded.running_le {id : Int} {view : ScheduleView}
    (guarded : Guarded id view) :
    view.labels.countP (RunStage.isRunning id) ≤ 1 := by
  have holding : ∀ stage ∈ view.labels, stage.isRunning id = true →
      stage.holds id = true := by
    intro stage member running
    have exclusive := guarded.exclusive stage member
    cases stage with
    | running other owner =>
      have same : (other == id) = true := running
      rw [RunStage.isExclusive, bne, same, Bool.not_true, Bool.false_or]
        at exclusive
      rw [RunStage.holds, same, exclusive, Bool.and_true]
    | _ => cases running
  cases lock : view.state.locks id with
  | none =>
    rw [List.countP_eq_zero.mpr]
    · exact Nat.zero_le 1
    · intro stage member running
      obtain ⟨found, stored, -⟩ :=
        guarded.held stage member (holding stage member running)
      rw [lock] at stored
      cases stored
  | some lock' =>
    apply Nat.le_trans _ (guarded.single lock'.ownerId)
    apply List.countP_mono_left
    intro stage member running
    obtain ⟨found, stored, owned⟩ :=
      guarded.held stage member (holding stage member running)
    rw [lock] at stored
    rw [hasOwner, owned, ← Option.some.inj stored, beq_self_eq_true]

/-- In every run in which the lock of a schedule is asked for only while the
lease of its run in progress has not expired, at most one execution of a schedule
with policy `SKIP` or `QUEUE` is running. -/
theorem executions_exclusive (next : NextOccurrence)
    {start pool : SchedulePool} {id : Int}
    {events : List (Event ScheduleInput ScheduleCall ScheduleEdit)}
    (idle : start.tasks = []) (exclusive : Exclusive id start.state)
    (run : Pool.Run (scheduleMachine next) leasesLast start events pool) :
    pool.tasks.countP (fun task => task.label.isRunning id) ≤ 1 := by
  have empty : start.view.labels = [] := by
    rw [Pool.view, idle, List.map_nil]
  have reached := (run.reaches (schedule_sound next) (by simp [idle])).1
  have guarded : Guarded id pool.view := by
    apply reached.invariant (Guarded id) (.idle empty exclusive)
    exact fun view after known step => known.step step
  have counted := guarded.running_le
  rw [Pool.view, List.countP_map] at counted
  exact counted

instance : leasesLast.Checkable where
  op view _ op input := by
    cases op with
    | acquire id ownerId leaseSeconds =>
      cases lock : view.state.locks id with
      | none =>
        exact .isTrue fun _ found stored => by
          rw [lock] at stored
          cases stored
      | some current =>
        exact decidable_of_iff
          ((∃ stage ∈ view.labels, stage.holds id = true) →
            view.state.clock + input.elapsed < current.expiresAt)
          ⟨fun known busy found stored => by
              rw [lock] at stored
              exact Option.some.inj stored ▸ known busy,
            fun known busy => known busy current lock⟩
    | _ => exact .isTrue trivial

/-- A schedule that skips runs, with a lease of half a minute. -/
def nightly : SchedulePool where
  state := {
    schedules := fun id => if id = 1 then some ⟨1, none⟩ else none
    policies := fun id =>
      if id = 1 then some { leaseSeconds := 30 } else none
    locks := fun _ => none
    executions := []
    nextUuid := 0
    nextExecution := 0
    clock := 0 }
  tasks := []
  history := []

theorem exclusive_nightly : Exclusive 1 nightly.state := by
  intro policy stored
  rw [← Option.some.inj stored]
  simp

def neverMissed : NextOccurrence := fun _ last => .ok (last + 1)

/-- A run begins and comes to its execution, its lock asked for some seconds
after the rest. -/
def untilExecution (index elapsed : Nat) :
    List (Event ScheduleInput ScheduleCall ScheduleEdit) :=
  .arrive (.run 1 ⟨.cron, 0⟩) ::
    List.replicate 3 (.run index ⟨0, none, ""⟩) ++
    .run index ⟨elapsed, none, ""⟩ ::
    List.replicate 3 (.run index ⟨0, none, ""⟩)

theorem executions_exclusive_in_time :
    ∃ pool, nightly.tasks = [] ∧ Exclusive 1 nightly.state ∧
      Pool.Run (scheduleMachine neverMissed) leasesLast nightly
        (untilExecution 0 0 ++ [.arrive (.run 1 ⟨.manual, 29⟩)] ++
          List.replicate 3 (.run 1 ⟨0, none, ""⟩) ++
          [.run 1 ⟨29, none, ""⟩]) pool ∧
      pool.tasks.countP (fun task => task.label.isRunning 1) ≤ 1 := by
  simp only [exists_and_left]
  refine ⟨rfl, exclusive_nightly,
    Pool.Run.exists_checked (fun _ => True) (by decide +kernel) ?_⟩
  intro pool run _
  exact executions_exclusive neverMissed rfl exclusive_nightly run

/-- An execution that takes longer than its lease is joined by the next one. -/
theorem outlived_lease_overlaps :
    ∃ events pool, Exclusive 1 nightly.state ∧
      Pool.Run (scheduleMachine neverMissed) .free nightly events pool ∧
      pool.tasks.countP (fun task => task.label.isRunning 1) = 2 := by
  simp only [exists_and_left]
  refine ⟨exclusive_nightly, untilExecution 0 0 ++ untilExecution 1 30, ?_⟩
  exact Pool.Run.exists_checked _ (by decide +kernel) fun _ _ twice => twice

end OpenOxide.Scheduling
