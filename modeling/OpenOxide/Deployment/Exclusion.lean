import OpenOxide.Deployment.Ownership

/-!
# One worker per resource

The partial unique indexes keep the active rows of an application or of a
compose project apart, but there is none for databases, and the busy check
of `run_operation` is a statement of its own: two calls can both pass it.
A second way to two workers is a worker that has given its row a final
status and is still on its way to its end while the next deployment of the
resource is claimed.

`exclusive` rules out both, and then no resource ever has two live workers
(`exclusive_workers`).  The first condition alone is enough for workers
whose rows are still running (`unfinished_exclusive`).
-/

namespace OpenOxide.Deployment

open Concurrency Relational

/-- The resources a target names. -/
def Target.resources (target : Target) : List ResourceKey :=
  (target.applicationId.map ResourceKey.application).toList ++
    (target.composeId.map ResourceKey.compose).toList ++
    (target.databaseId.map
      (ResourceKey.database (target.databaseKind.getD .postgres))).toList

theorem Target.mem_resources {target : Target} {key : ResourceKey} :
    key ∈ target.resources ↔ target.names key = true := by
  cases key <;>
    simp [Target.resources, Target.names, Option.map_eq_some_iff]

/-- The row occupies the resource: the busy checks and the unique indexes
count it. -/
def DeploymentRow.occupies (key : ResourceKey) (row : DeploymentRow) : Bool :=
  row.status.active && row.target.names key

/-- The task is a live worker for the resource. -/
def Role.worksOn (key : ResourceKey) (role : Role) : Bool :=
  role.claim?.any fun claim => claim.target.names key

/-- The row of the claim is still running. -/
def Database.isRunning (database : Database) (claim : DeploymentClaim) :
    Bool :=
  database.deployments.any fun row =>
    row.id == claim.id && row.status == .running

/-- A database row is inserted only while no row occupies the database. -/
def vacantInsert (view : PanelView) (op : Op) : Prop :=
  ∀ new ∈ op.creates, new.key.isDatabase = true →
    ∀ row ∈ view.state.database.deployments, row.occupies new.key = false

/-- A row is claimed only while every live worker of its resource still has
its own row running. -/
def promptClaim (view : PanelView) (op : Op) : Prop :=
  ∀ id ∈ op.claims, ∀ row ∈ view.state.database.deployments, row.id = id →
    ∀ key ∈ row.target.resources, ∀ owner ∈ view.labels,
      owner.worksOn key = true →
      owner.claim?.any view.state.database.isRunning = true

instance (view : PanelView) (op : Op) : Decidable (vacantInsert view op) :=
  inferInstanceAs (Decidable (∀ new ∈ op.creates, _ → _))

instance (view : PanelView) (op : Op) : Decidable (promptClaim view op) :=
  inferInstanceAs (Decidable (∀ id ∈ op.claims, ∀ row ∈
    view.state.database.deployments, _ → _))

def vacant : PanelGuard where
  op view _ op _ := vacantInsert view op
  unwind _ _ := True
  arrive _ _ := True
  restart := True

def exclusive : PanelGuard where
  op view _ op _ := vacantInsert view op ∧ promptClaim view op
  unwind _ _ := True
  arrive _ _ := True
  restart := True

instance : vacant.Checkable where
  op view _ op _ := inferInstanceAs (Decidable (vacantInsert view op))

instance : exclusive.Checkable where
  op view _ op _ :=
    inferInstanceAs (Decidable (vacantInsert view op ∧ promptClaim view op))

/-- At most one row occupies each resource. -/
def Spread (database : Database) : Prop :=
  ∀ key, AtMostOne (DeploymentRow.occupies key) database.deployments

theorem Becomes.active {role : Role} {op : Op} {row : DeploymentRow}
    {status : DeploymentStatus} (becomes : Becomes role op row status)
    (active : status.active = true) : row.status.active = true := by
  cases becomes with
  | claimed own queued =>
    rw [queued]
    rfl
  | @finalized work error row own =>
    have terminal := finalStatus_terminal error
    revert active terminal
    cases finalStatus error <;> simp [DeploymentStatus.active,
      DeploymentStatus.terminal]
  | _ => cases active

section Steps

variable {config : Config} {schema : Schema} {guard : PanelGuard}
  {view next : PanelView} {role : Role} {op : Op} {input : Input}
  {answer : op.Answer}

theorem Spread.acts (spread : Spread view.state.database)
    (permitted : vacantInsert view op)
    (acts : Acts config schema view next role op input answer) :
    Spread next.state.database := by
  intro key
  obtain ⟨change, inserted, rewrites⟩ := acts.rewrites
  have kept : AtMostOne (DeploymentRow.occupies key)
      (view.state.database.deployments.map change) := by
    apply (spread key).map
    intro row member occupied
    have target : (change row).target = row.target :=
      congrArg DeploymentClaim.target (rewrites.claim row member)
    simp only [DeploymentRow.occupies, target, Bool.and_eq_true] at occupied ⊢
    refine ⟨?_, occupied.2⟩
    rcases rewrites.status row member with same | becomes
    · rw [← same]
      exact occupied.1
    · exact becomes.active occupied.1
  rcases rewrites.new with rfl | ⟨fresh, phase, rfl, rfl, rfl⟩
  · rw [rewrites.rows, List.append_nil]
    exact kept
  · rcases answer with error | id
    · rw [acts.failed]
      exact spread key
    · obtain ⟨result, _, unique⟩ := Database.createQueued_ok acts.executed.1
      rw [result]
      apply (spread key).insert
      intro occupied old member
      have own : fresh.key = key := by
        simpa [DeploymentRow.occupies, NewDeployment.row] using
          (Bool.and_eq_true _ _).mp occupied |>.2
      subst own
      cases indexed : Database.uniqueIndex fresh.key with
      | some index =>
        cases active : old.status.active with
        | false => simp [DeploymentRow.occupies, active]
        | true =>
          simp [DeploymentRow.occupies, unique index indexed old member active]
      | none =>
        apply permitted fresh rfl _ old member
        cases key : fresh.key with
        | database kind id => rfl
        | _ =>
          rw [key] at indexed
          cases indexed

theorem Spread.step (spread : Spread view.state.database)
    (permits : ∀ role op input, guard.op view role op input →
      vacantInsert view op)
    (step : View.Step (machine config schema) guard view next) :
    Spread next.state.database := by
  rcases acts_or_still step with
    ⟨role, op, input, answer, acts, permitted⟩ | still
  · exact spread.acts (permits role op input permitted) acts
  · intro key
    rw [still.rows]
    exact spread key

/-- When a queued row is claimed promptly, its resource has no worker. -/
theorem idle_of_promptClaim (owned : Owned view.state.database view.labels)
    (spread : Spread view.state.database) {row : DeploymentRow}
    (permitted : promptClaim view (.sql (.claimQueuedDeployment row.id)))
    (member : row ∈ view.state.database.deployments)
    (queued : row.status = .queued) {key : ResourceKey}
    (named : row.target.names key = true) :
    view.labels.countP (Role.worksOn key) = 0 := by
  rw [List.countP_eq_zero]
  intro owner present works
  have running := permitted row.id rfl row member rfl key
    (Target.mem_resources.mpr named) owner present works
  obtain ⟨claim, claimed⟩ : ∃ claim, owner.claim? = some claim := by
    cases claimed : owner.claim? with
    | none => simp [Role.worksOn, claimed] at works
    | some claim => exact ⟨claim, rfl⟩
  simp only [Role.worksOn, claimed, Option.any_some] at works running
  obtain ⟨other, otherMember, matched⟩ := List.any_eq_true.mp running
  simp only [Bool.and_eq_true, beq_iff_eq] at matched
  obtain ⟨own, ownMember, rfl, _⟩ := owned.row owner present claim claimed
  obtain rfl : other = own :=
    owned.ids.eq otherMember ownMember matched.1
  have same : other = row := by
    apply (spread key).eq otherMember member
    · rw [DeploymentRow.occupies, matched.2]
      exact works
    · rw [DeploymentRow.occupies, queued]
      exact named
  rw [same, queued] at matched
  cases matched.2

/-- The invariant of exclusive runs. -/
structure Exclusive (view : PanelView) : Prop where
  owned : Owned view.state.database view.labels
  spread : Spread view.state.database
  alone : ∀ key, view.labels.countP (Role.worksOn key) ≤ 1

theorem Exclusive.step (invariant : Exclusive view)
    (step : View.Step (machine config schema) exclusive view next) :
    Exclusive next := by
  have spread : Spread next.state.database := by
    refine invariant.spread.step ?_ step
    intro role op input permitted
    exact permitted.1
  refine ⟨invariant.owned.step step, spread, ?_⟩
  intro key
  have before := invariant.alone key
  rcases acts_or_still step with
    ⟨role, op, input, answer, acts, permitted⟩ | still
  · rcases acts.claims with fewer | ⟨server, semaphore, row, claims⟩
    · exact Nat.le_trans (fewer _ rfl) before
    · have count := claims.count
        (fun found => found.any fun claim => claim.target.names key) rfl
      change next.labels.countP (Role.worksOn key) =
        view.labels.countP (Role.worksOn key) +
          (row.target.names key).toNat at count
      cases named : row.target.names key with
      | false =>
        rw [named] at count
        simp only [Bool.toNat_false] at count
        omega
      | true =>
        have prompt := permitted.2
        rw [claims.statement] at prompt
        have none := idle_of_promptClaim invariant.owned invariant.spread
          prompt claims.member claims.queued named
        rw [named, none] at count
        exact Nat.le_of_eq count
  · exact Nat.le_trans (still.claims _ rfl) before

end Steps

section Runs

variable {config : Config} {schema : Schema} {database : Database}
  {events : List (Event Input Call Signal)} {pool : PanelPool}

/-- Workers whose rows are still running are alone on their resources as
soon as no database row is inserted next to an active one. -/
theorem unfinished_exclusive (ids : Ids database) (spread : Spread database)
    (run : Pool.Run (machine config schema) vacant (boot database) events
      pool) (key : ResourceKey) :
    pool.view.labels.countP (fun role => role.claim?.any fun claim =>
      claim.target.names key && pool.state.database.isRunning claim) ≤ 1 := by
  have reached := boot_reaches run
  have owned : Owned pool.view.state.database pool.view.labels :=
    (sane_of_reaches ids reached).owned
  have kept : Spread pool.view.state.database := by
    refine reached.invariant (fun view => Spread view.state.database) spread ?_
    intro view next spread step
    refine spread.step ?_ step
    intro role op input permitted
    exact permitted
  by_cases idle : pool.view.labels.countP (fun role =>
      role.claim?.any fun claim => claim.target.names key &&
        pool.state.database.isRunning claim) = 0
  · omega
  · have rowOf : ∀ role ∈ pool.view.labels, (role.claim?.any fun claim =>
        claim.target.names key &&
          pool.state.database.isRunning claim) = true →
        ∃ row ∈ pool.view.state.database.deployments,
          role.claim? = some row.claim ∧ row.occupies key = true := by
      intro role member unfinished
      cases claimed : role.claim? with
      | none => simp [claimed] at unfinished
      | some claim =>
        simp only [claimed, Option.any_some, Bool.and_eq_true] at unfinished
        obtain ⟨other, otherMember, matched⟩ :=
          List.any_eq_true.mp unfinished.2
        simp only [Bool.and_eq_true, beq_iff_eq] at matched
        obtain ⟨row, rowMember, rfl, _⟩ :=
          owned.row role member claim claimed
        obtain rfl : other = row :=
          owned.ids.eq otherMember rowMember matched.1
        refine ⟨other, otherMember, rfl, ?_⟩
        rw [DeploymentRow.occupies, matched.2]
        exact unfinished.1
    obtain ⟨first, member, unfinished⟩ :=
      List.countP_pos_iff.mp (Nat.pos_of_ne_zero idle)
    obtain ⟨row, rowMember, _, occupies⟩ := rowOf first member unfinished
    refine Nat.le_trans ?_ (owned.single row.id)
    apply List.countP_mono_left
    intro other otherMember otherUnfinished
    obtain ⟨otherRow, otherRowMember, claimed, otherOccupies⟩ :=
      rowOf other otherMember otherUnfinished
    rw [(kept key).eq otherRowMember rowMember otherOccupies occupies]
      at claimed
    exact Role.owns_iff.mpr ⟨row.claim, claimed, rfl⟩

/-- In every run that meets both conditions, no resource ever has two live
workers. -/
theorem exclusive_workers (ids : Ids database) (spread : Spread database)
    (run : Pool.Run (machine config schema) exclusive (boot database) events
      pool) (key : ResourceKey) :
    pool.view.labels.countP (Role.worksOn key) ≤ 1 := by
  have start : Exclusive (boot database).view :=
    ⟨.of_ids ids, spread, fun _ => by simp [boot, Pool.view]⟩
  exact ((boot_reaches run).invariant Exclusive start
    fun _ _ invariant step => invariant.step step).alone key

end Runs

/-- A database is deployed, its worker ends, and it is deployed again. -/
def databaseTwice : List (Event Input Call Signal) :=
  startUp ++
    [.arrive (.runDatabase .postgres 1 .deploy)] ++ runs 1 12 ++
    runs 0 9 ++ runs 0 17 ++
    [.arrive (.runDatabase .postgres 1 .redeploy)] ++ runs 2 12 ++ runs 0 7

theorem exclusive_workers_twice :
    ∃ pool, Pool.Run (machine twoWorkers .migrations) exclusive
        (boot (single (.database .postgres 1) none)) databaseTwice pool ∧
      (handed pool.history).length = 2 ∧
      ∀ key, pool.view.labels.countP (Role.worksOn key) ≤ 1 := by
  refine Pool.Run.exists_checked
    (fun pool => (handed pool.history).length = 2) (by decide +kernel) ?_
  intro pool run two
  exact ⟨two, exclusive_workers (ids_single _ _) (fun _ => .nil) run⟩

theorem unfinished_exclusive_twice :
    ∃ pool, Pool.Run (machine twoWorkers .migrations) vacant
        (boot (single (.database .postgres 1) none)) databaseTwice pool ∧
      ∀ key, pool.view.labels.countP (fun role => role.claim?.any fun claim =>
        claim.target.names key && pool.state.database.isRunning claim) ≤ 1 :=
  Pool.Run.exists_checked (fun _ => True) (by decide +kernel)
    fun _ run _ => unfinished_exclusive (ids_single _ _) (fun _ => .nil) run

/-- Without a unique index the race of two calls ends with two live workers
for one database. -/
theorem database_workers_race :
    ∃ pool, Pool.Run (machine twoWorkers .migrations) anyStep
        (boot (single (.database .postgres 1) none)) databaseRace pool ∧
      pool.view.labels.countP (Role.worksOn (.database .postgres 1)) = 2 := by
  exact Pool.Run.exists_checked _ (by decide +kernel) fun _ _ two => two

end OpenOxide.Deployment
