import OpenOxide.Deployment.Lifecycle

/-!
# No deployment gets stuck

A row that is under way needs a task that will end it.  Two things can take
that task away.  A worker whose finalising transaction fails does not try
again; with the constraints of the migrations this happens whenever a
compose project has been stopped, since `STOPPED` is not a compose status
they accept.  And the transaction, or the resolution of the repository that
precedes it, can fail for outside reasons.

In runs without either (`unhindered`), every row under way has a task that
has still to end it, and that task, running on its own, does end it.
-/

namespace OpenOxide.Deployment

open Concurrency

def Input.faulty : Input → Bool
  | .fault _ => true
  | _ => false

/-- The worker, or its panic handler, is about to end its deployment. -/
def Role.ending : Role → Bool
  | .worker _ .deciding | .worker _ .handling => true
  | _ => false

/-- Whoever ends a deployment reaches the database. -/
def endsCleanly (role : Role) (op : Op) (input : Input) : Prop :=
  role.ending = true →
    op = .outside .resolve ∨ op.finalizes.isSome = true →
      input.faulty = false

/-- Stop operations are queued for databases only. -/
def queuesNoStop (op : Op) : Prop :=
  ∀ new ∈ op.creates, new.operation = .stop → new.key.isDatabase = true

instance (role : Role) (op : Op) (input : Input) :
    Decidable (endsCleanly role op input) :=
  inferInstanceAs (Decidable (_ → _ ∨ _ → _))

instance (op : Op) : Decidable (queuesNoStop op) :=
  inferInstanceAs (Decidable (∀ new ∈ op.creates, _ → _))

/-- The process is not restarted. -/
def unhindered : PanelGuard where
  op _ role op input := endsCleanly role op input ∧ queuesNoStop op
  unwind _ _ := True
  arrive _ _ := True
  restart := False

instance : unhindered.Checkable where
  op _ role op input := inferInstanceAs
    (Decidable (endsCleanly role op input ∧ queuesNoStop op))
  restart := .isFalse id

/-- A stop is claimed for databases only. -/
def DeploymentClaim.stopsDatabase (claim : DeploymentClaim) : Prop :=
  claim.operation = some .stop →
    ∀ key ∈ claim.target.statusKey, key.isDatabase = true

variable {claim : DeploymentClaim} {work : Worker} {server : ServerKey}
  {semaphore : Nat}

/-- The migrations accept every status such a claim can end with. -/
theorem finalization_accepted (stops : claim.stopsDatabase)
    (error : Option String) :
    ∀ key ∈ claim.target.statusKey,
      Schema.migrations.resourceStatus key
        (claim.finalization error).resourceStatus = true := by
  intro key addressed
  simp only [DeploymentClaim.finalization, targetStatus]
  split
  next _ =>
    split
    next stop =>
      have operation : claim.operation = some .stop := by
        cases asked : claim.operation with
        | none => simp [asked] at stop
        | some operation => simpa [asked] using stop
      have database := stops operation key addressed
      cases key with
      | database kind id => rfl
      | _ => cases database
    next _ => cases key <;> rfl
  next _ => cases key <;> rfl

theorem finalStatus_accepted (error : Option String) :
    Schema.migrations.deploymentStatus (finalStatus error) = true := by
  have terminal := finalStatus_terminal error
  revert terminal
  cases finalStatus error <;> simp [DeploymentStatus.terminal,
    Schema.migrations]

theorem Role.unsettled_running {role : Role}
    (unsettled : role.unsettled = some claim) : ¬ ended role = true := by
  intro hasEnded
  have none := (ended_cases hasEnded).2.2.1
  rw [Role.unsettled_claim unsettled] at none
  cases none

variable {phase : WorkerPhase}

theorem advance_ending
    (ending : phase = .deciding ∨ phase = .handling) {op : Op}
    (quiet : harmless op = true) (other : op ≠ .outside .resolve)
    (answer : op.Answer) :
    advance (.worker work phase) op answer = .worker work phase := by
  rcases ending with rfl | rfl
  all_goals
    cases op with
    | outside request =>
      cases request with
      | resolve => exact absurd rfl other
      | _ => rfl
    | sql query => cases query <;> first | rfl | cases quiet
    | memory op => cases op <;> first | rfl | cases quiet
    | spawn child => cases child <;> rfl
    | _ => cases quiet

section Steps

variable {config : Config} {schema : Schema} {guard : PanelGuard}
  {view next : PanelView} {role : Role} {op : Op} {input : Input}
  {answer : op.Answer}

theorem Acts.not_abandoned (ending : phase = .deciding ∨ phase = .handling)
    (acts : Acts config schema view next (.worker work phase) op input answer)
    (clean : endsCleanly (.worker work phase) op input)
    (quiet : harmless op = true) :
    advance (.worker work phase) op answer = .worker work phase := by
  by_cases resolving : op = .outside .resolve
  · subst resolving
    obtain rfl : input.unit = answer := acts.answered
    have works : input.unit = .ok () := by
      have healthy := clean (by rcases ending with rfl | rfl <;> rfl)
        (Or.inl rfl)
      cases input <;> first | rfl | cases healthy
    rw [works]
    rcases ending with rfl | rfl <;> rfl
  · exact advance_ending ending quiet resolving answer

/-- The phases in which a worker has still to end its row. -/
def WorkerPhase.unsettled : WorkerPhase → Bool
  | .running | .deciding | .handling => true
  | _ => false

theorem Role.unsettled_worker
    (unsettled : Role.unsettled (.worker work phase) = some claim) :
    phase.unsettled = true ∧ work.claim = claim := by
  cases phase <;> first | cases unsettled; exact ⟨rfl, rfl⟩ | cases unsettled

theorem Role.unsettled_of_phase {phase : WorkerPhase}
    (unsettled : phase.unsettled = true) :
    Role.unsettled (.worker work phase) = some work.claim := by
  cases phase <;> first | rfl | cases unsettled

/-- A worker that has still to end its row does so, or stays at it. -/
theorem Acts.worker_stays
    (acts : Acts config schema view next (.worker work phase) op input answer)
    (clean : endsCleanly (.worker work phase) op input)
    (unsettled : phase.unsettled = true) :
    (∃ reached, reached.unsettled = true ∧
      advance (.worker work phase) op answer = .worker work reached) ∨
      Role.ending (.worker work phase) = true ∧
        op.finalizes.isSome = true := by
  rcases acts.allowed with quiet | move
  · rcases advance_harmless quiet (.worker work phase) answer with
      same | ⟨other, own, moved⟩ | ⟨selector, id, impossible, _⟩ |
        ⟨id, seen, impossible, _, _⟩
    · exact Or.inl ⟨phase, unsettled, same⟩
    · have ending : phase = .deciding ∨ phase = .handling :=
        own.imp (by rintro ⟨⟩; rfl) (by rintro ⟨⟩; rfl)
      exact Or.inl ⟨phase, unsettled, acts.not_abandoned ending clean quiet⟩
    · cases impossible
    · cases impossible
  · cases move with
    | executed => exact Or.inl ⟨.deciding, rfl, rfl⟩
    | finalize => exact Or.inr ⟨rfl, rfl⟩
    | panicFinalize => exact Or.inr ⟨rfl, rfl⟩
    | release _ finished =>
      rcases finished with rfl | rfl | rfl <;> cases unsettled

theorem Acts.dispatcher_stays (acts : Acts config schema view next
      (.dispatcher (.claimed claim server semaphore)) op input answer) :
    advance (.dispatcher (.claimed claim server semaphore)) op answer =
        .dispatcher (.claimed claim server semaphore) ∨
      op = .spawn (.worker claim server semaphore) := by
  rcases acts.allowed with quiet | move
  · rcases advance_harmless quiet
        (.dispatcher (.claimed claim server semaphore)) answer with
      same | ⟨other, own | own, moved⟩ | ⟨selector, id, impossible, _⟩ |
        ⟨id, seen, impossible, _, _⟩
    · exact Or.inl same
    · cases own
    · cases own
    · cases impossible
    · cases impossible
  · cases move
    exact Or.inr rfl

/-- A task that has still to end its row keeps that duty until it runs the
finalising transaction. -/
theorem Acts.keeps (acts : Acts config schema view next role op input answer)
    (clean : endsCleanly role op input) {owner : Role}
    (member : owner ∈ view.labels) (unsettled : owner.unsettled = some claim) :
    (∃ later ∈ next.labels, later.unsettled = some claim) ∨
      ∃ work phase, role = .worker work phase ∧ work.claim = claim ∧
        role.ending = true ∧ op.finalizes.isSome = true := by
  by_cases own : owner = role
  · subst own
    cases owner with
    | worker work phase =>
      obtain ⟨inside, rfl⟩ := Role.unsettled_worker unsettled
      rcases acts.worker_stays clean inside with
        ⟨reached, still, moved⟩ | ⟨ending, finalizes⟩
      · have duty := @Role.unsettled_of_phase work reached still
        have kept := acts.turns.reached_mem
        rw [moved] at kept
        exact Or.inl ⟨_, kept (Role.unsettled_running duty), duty⟩
      · exact Or.inr ⟨work, phase, rfl, rfl, ending, finalizes⟩
    | dispatcher phase =>
      cases phase with
      | claimed =>
        cases unsettled
        rcases acts.dispatcher_stays with same | rfl
        · have kept := acts.turns.reached_mem
          rw [same] at kept
          exact Or.inl ⟨_, kept Bool.false_ne_true, rfl⟩
        · exact Or.inl ⟨_, acts.turns.spawned_mem
            (List.mem_singleton_self _), rfl⟩
      | _ => cases unsettled
    | _ => cases unsettled
  · exact Or.inl ⟨owner, acts.turns.mem_of_ne member own, unsettled⟩

theorem Acts.succeeds {query : Query} {answer : Except SqlError query.Answer}
    (acts : Acts config schema view next role (.sql query) input answer)
    (healthy : input.faulty = false) {result : Database × query.Answer}
    (accepted : view.state.database.execute schema query = .ok result) :
    answer = .ok result.2 := by
  have answered := acts.answered
  have attempted : view.state.database.attempt schema query input =
      (result.1, .ok result.2) := by
    unfold Database.attempt
    split
    · cases healthy
    · rw [accepted]
  simp only [Panel.exec, attempted] at answered
  exact answered.symm

variable {later : DeploymentRow}

theorem ended_row {final : Finalization} {answer : Except SqlError Unit}
    (acts : Acts config .migrations view next role
      (.sql (.finalizeWithResource final)) input answer)
    (healthy : input.faulty = false)
    (status : Schema.migrations.deploymentStatus final.deploymentStatus = true)
    (resource : ∀ key ∈ final.target.statusKey,
      Schema.migrations.resourceStatus key final.resourceStatus = true)
    (present : later ∈ next.state.database.deployments)
    (own : later.id = final.id) :
    later.status = final.deploymentStatus := by
  obtain ⟨after, finalized⟩ := @Database.finalizeWithResource_succeeds
    .migrations view.state.database final status resource
  have executed : view.state.database.execute .migrations
      (.finalizeWithResource final) = .ok (after, ()) := by
    simp only [Database.execute, finalized]
    rfl
  obtain rfl := acts.succeeds healthy executed
  have succeeded := acts.executed.1
  rw [executed] at succeeded
  have same : after = next.state.database :=
    congrArg Prod.fst (Except.ok.inj succeeded)
  rw [← same, (Database.finalizeWithResource_ok finalized).1]
    at present
  obtain ⟨old, _, rfl⟩ := Relational.mem_updateWhere.mp present
  have sameId : old.id = final.id := by
    split at own <;> exact own
  rw [if_pos (finalization_hits.mpr sameId)]
  rfl

/-- The transaction of a worker or of its panic handler ends its row. -/
theorem finalizing_ends
    (acts : Acts config .migrations view next (.worker work phase) op input
      answer) (clean : endsCleanly (.worker work phase) op input)
    (ending : Role.ending (.worker work phase) = true)
    (finalizes : op.finalizes.isSome = true) (stops : work.claim.stopsDatabase)
    (present : later ∈ next.state.database.deployments)
    (own : later.id = work.claim.id) :
    later.status.terminal = true := by
  have healthy := clean ending (Or.inr finalizes)
  rcases acts.allowed with quiet | move
  · cases op with
    | sql query =>
      cases query with
      | finalizeWithResource final => cases quiet
      | _ => cases finalizes
    | _ => cases finalizes
  · cases move with
    | finalize _ error =>
      rw [ended_row acts healthy (finalStatus_accepted error)
        (finalization_accepted stops error) present own]
      exact finalStatus_terminal error
    | panicFinalize =>
      rw [ended_row acts healthy rfl (by
        intro key _
        cases key <;> rfl) present own]
      rfl
    | _ => cases finalizes

/-- A row that a claim has made running has its dispatcher. -/
theorem claimed_tended {id : Int}
    {answer : Except SqlError (Option DeploymentClaim)}
    (acts : Acts config schema view next
      (.dispatcher (.holding server semaphore))
      (.sql (.claimQueuedDeployment id)) input answer)
    (ids : Ids view.state.database) {old : DeploymentRow}
    (oldPresent : old ∈ view.state.database.deployments) (own : old.id = id)
    (queued : old.status = .queued)
    (present : later ∈ next.state.database.deployments)
    (same : later.claim = old.claim) (running : later.status = .running) :
    ∃ role ∈ next.labels, role.unsettled = some old.claim := by
  rcases answer with error | found
  · rw [acts.failed] at present
    have equal := ids.eq present oldPresent
      (congrArg DeploymentClaim.id same)
    rw [equal, queued] at running
    cases running
  · cases found with
    | none =>
      obtain ⟨found, _⟩ :=
        Database.claimQueuedDeployment_ok acts.executed.1
      have missed := List.find?_eq_none.mp
        (Option.map_eq_none_iff.mp found.symm) old oldPresent
      exact absurd (claimUpdate_hits.mpr ⟨own, queued⟩) missed
    | some claim =>
      obtain ⟨row, rfl, claims⟩ := acts.claims_row
      have statement := claims.statement
      simp only [Op.sql.injEq, Query.claimQueuedDeployment.injEq]
        at statement
      obtain rfl := ids.eq claims.member oldPresent
        (statement.symm.trans own.symm)
      exact ⟨_, acts.turns.reached_mem Bool.false_ne_true, rfl⟩

/-- The invariant of unhindered runs. -/
structure Tended (view : PanelView) : Prop where
  owned : Owned view.state.database view.labels
  stops : ∀ row ∈ view.state.database.deployments,
    row.status.terminal = false → row.claim.stopsDatabase
  uncancelled : ∀ row ∈ view.state.database.deployments,
    row.status ≠ .cancelling
  tended : ∀ row ∈ view.state.database.deployments,
    row.status = .running →
      ∃ role ∈ view.labels, role.unsettled = some row.claim

namespace Tended

theorem acts (tended : Tended view)
    (permitted : endsCleanly role op input ∧ queuesNoStop op)
    (acts : Acts config .migrations view next role op input answer) :
    Tended next := by
  refine ⟨tended.owned.acts acts, ?_, ?_, ?_⟩
  · intro row present unfinished
    rcases acts.backward present with
      ⟨old, oldPresent, same, changed⟩ | ⟨fresh, phase, rfl, _, rfl⟩
    · rw [same]
      apply tended.stops old oldPresent
      rcases changed with unchanged | becomes
      · rw [← unchanged]
        exact unfinished
      · exact becomes.unfinished unfinished
    · intro stop key addressed
      have own : fresh.key = key := by
        simpa [NewDeployment.row, DeploymentRow.claim] using addressed
      rw [← own]
      exact permitted.2 fresh rfl (Option.some.inj stop)
  · intro row present cancelling
    rcases acts.accepted present with
      ⟨old, oldPresent, same⟩ | queued | accepted
    · exact tended.uncancelled old oldPresent (same.symm.trans cancelling)
    · rw [cancelling] at queued
      cases queued
    · rw [cancelling] at accepted
      cases accepted
  · intro row present running
    rcases acts.backward present with
      ⟨old, oldPresent, same, unchanged | becomes⟩ | ⟨fresh, phase, _, _, rfl⟩
    · obtain ⟨owner, member, unsettled⟩ :=
        tended.tended old oldPresent (unchanged.symm.trans running)
      rw [same]
      rcases acts.keeps permitted.1 member unsettled with
        kept | ⟨work, phase, rfl, claim, ending, finalizes⟩
      · exact kept
      · have stops := tended.stops old oldPresent (by
          rw [← unchanged, running]
          rfl)
        rw [← claim] at stops
        have terminal := finalizing_ends acts permitted.1 ending finalizes
          stops present (by
            rw [claim]
            exact congrArg DeploymentClaim.id same)
        rw [running] at terminal
        cases terminal
    · rw [running] at becomes
      rw [same]
      generalize target : DeploymentStatus.running = status at becomes
      cases becomes with
      | claimed own queued =>
        exact claimed_tended acts tended.owned.ids oldPresent own queued
          present same running
      | @finalized work error row own =>
        have terminal := finalStatus_terminal error
        rw [← target] at terminal
        cases terminal
      | _ => cases target
    · cases running

theorem of_rows (tended : Tended view)
    (owned : Owned next.state.database next.labels)
    (rows : next.state.database.deployments = view.state.database.deployments)
    (kept : ∀ claim, ∀ owner ∈ view.labels, owner.unsettled = some claim →
      ∃ later ∈ next.labels, later.unsettled = some claim) : Tended next := by
  refine ⟨owned, rows ▸ tended.stops, rows ▸ tended.uncancelled, ?_⟩
  rw [rows]
  intro row present running
  obtain ⟨owner, member, unsettled⟩ := tended.tended row present running
  exact kept _ owner member unsettled

theorem step (tended : Tended view)
    (step : View.Step (machine config .migrations) unhindered view next) :
    Tended next := by
  cases happens step with
  | acts role op input answer acts permitted =>
    exact tended.acts permitted acts
  | panics work phase inside turns state history permitted =>
    refine tended.of_rows (tended.owned.step step) (by rw [state]) ?_
    intro claim owner member unsettled
    by_cases own : owner = .worker work phase
    · refine ⟨_, turns.reached_mem Bool.false_ne_true, ?_⟩
      rw [own] at unsettled
      rcases inside with rfl | rfl | rfl
      · exact unsettled
      · exact unsettled
      · cases unsettled
    · exact ⟨owner, turns.mem_of_ne member own, unsettled⟩
  | arrives call left joined labels state history permitted =>
    refine tended.of_rows (tended.owned.step step) (by rw [state]) ?_
    intro claim owner member unsettled
    rw [labels]
    exact ⟨owner, List.mem_append_left _ member, unsettled⟩
  | signalled signal labels state history =>
    refine tended.of_rows (tended.owned.step step) ?_ ?_
    · rw [state]
      cases signal <;> rfl
    · rw [labels]
      exact fun _ owner member unsettled => ⟨owner, member, unsettled⟩
  | restarts labels state history permitted => exact permitted.elim

end Tended

end Steps

section Solo

variable {config : Config} {pool : PanelPool} {index : Nat}

/-- The row is final. -/
def Finished (id : Int) (pool : PanelPool) : Prop :=
  ∀ row ∈ pool.state.database.deployments, row.id = id →
    row.status.terminal = true

/-- Tasks that have still to end a row never wait and insert nothing. -/
theorem unsettled_enabled {role : Role}
    (unsettled : role.unsettled = some claim) {op : Op}
    (allowed : protocol.allows role op) (panel : Panel) :
    Panel.ready op panel = true ∧
      endsCleanly role op .normal ∧ queuesNoStop op := by
  have central : role.aside = false := by
    cases aside : role.aside with
    | false => rfl
    | true =>
      rw [Role.unsettled_aside aside] at unsettled
      cases unsettled
  refine ⟨?_, fun _ _ => rfl, ?_⟩
  · unfold Panel.ready
    split
    · rcases allowed with quiet | move
      · cases quiet
      · cases move
        cases unsettled
    · rfl
  · intro new created
    cases op with
    | sql query =>
      cases query with
      | createQueued other =>
        rcases allowed with quiet | move
        · cases quiet
        · cases move
          cases central
      | _ => cases created
    | _ => cases created

/-- A worker that is left to itself ends its row. -/
theorem worker_finishes {code : Action Unit}
    (unsettled : phase.unsettled = true) (stops : work.claim.stopsDatabase)
    (found : pool.tasks[index]? = some ⟨.worker work phase, code⟩)
    (follows : (machine config .migrations).TaskFollows
      ⟨.worker work phase, code⟩) :
    ∃ steps next, Pool.Run (machine config .migrations) unhindered pool
        (List.replicate steps (.run index .normal)) next ∧
      Finished work.claim.id next := by
  refine @Pool.Run.solo _ _ _ _ _ _ _ (machine config .migrations) unhindered
    .normal (Finished work.claim.id)
    (fun role => ∃ phase, role = .worker work phase ∧ phase.unsettled = true)
    ?_ ?_ ?_ index code pool _ ⟨phase, rfl, unsettled⟩ found follows
  · rintro label ⟨phase, rfl, inside⟩
    exact Role.unsettled_running (Role.unsettled_of_phase inside)
  · rintro pool label op ⟨phase, rfl, inside⟩ allowed
    exact unsettled_enabled (Role.unsettled_of_phase inside) allowed pool.state
  · rintro pool next index label op rest ⟨phase, rfl, inside⟩ found follows
      stepped
    have acts := Acts.of_run found follows stepped
    have clean : endsCleanly (.worker work phase) op .normal := fun _ _ => rfl
    rcases acts.worker_stays clean inside with
      ⟨reached, still, moved⟩ | ⟨ending, finalizes⟩
    · exact Or.inr ⟨reached, moved, still⟩
    · left
      intro row present own
      exact finalizing_ends acts clean ending finalizes stops present own

/-- A dispatcher that is left to itself hands out the row it has claimed. -/
theorem dispatcher_hands {code : Action Unit} (found : pool.tasks[index]? =
      some ⟨.dispatcher (.claimed claim server semaphore), code⟩)
    (follows : (machine config .migrations).TaskFollows
      ⟨.dispatcher (.claimed claim server semaphore), code⟩) :
    ∃ steps next, Pool.Run (machine config .migrations) unhindered pool
        (List.replicate steps (.run index .normal)) next ∧
      spawned config (.worker claim server semaphore) ∈ next.tasks := by
  refine @Pool.Run.solo _ _ _ _ _ _ _ (machine config .migrations) unhindered
    .normal
    (fun pool => spawned config (.worker claim server semaphore) ∈ pool.tasks)
    (fun role => role = .dispatcher (.claimed claim server semaphore))
    ?_ ?_ ?_ index code pool _ rfl found follows
  · rintro label rfl
    nofun
  · rintro pool label op rfl allowed
    exact unsettled_enabled rfl allowed pool.state
  · rintro pool next index label op rest rfl found follows stepped
    have acts := Acts.of_run found follows stepped
    rcases acts.dispatcher_stays with same | rfl
    · exact Or.inr same
    · left
      rw [(Pool.run_view found follows stepped).2.2]
      exact List.mem_append_right _ (List.mem_singleton_self _)

/-- Whoever has still to end a row ends it when nothing else happens. -/
theorem unsettled_finishes {task : PanelTask} (member : task ∈ pool.tasks)
    (follows : (machine config .migrations).TaskFollows task)
    (unsettled : task.label.unsettled = some claim)
    (stops : claim.stopsDatabase) :
    ∃ events next, Pool.Run (machine config .migrations) unhindered pool
        events next ∧
      (∀ event ∈ events, ∃ index, event = .run index .normal) ∧
      Finished claim.id next := by
  have quiet : ∀ index steps, ∀ event ∈ List.replicate steps
      (.run index .normal : Event Input Call Signal),
      ∃ index, event = .run index .normal :=
    fun index steps event repeated => ⟨index, List.eq_of_mem_replicate repeated⟩
  obtain ⟨index, found⟩ := List.mem_iff_getElem?.mp member
  obtain ⟨label, code⟩ := task
  cases label with
  | worker work phase =>
    obtain ⟨inside, rfl⟩ := Role.unsettled_worker unsettled
    obtain ⟨steps, next, run, finished⟩ :=
      worker_finishes inside stops found follows
    exact ⟨_, next, run, quiet index steps, finished⟩
  | dispatcher phase =>
    cases phase with
    | claimed given server semaphore =>
      cases unsettled
      obtain ⟨steps, middle, run, handed⟩ := dispatcher_hands found follows
      obtain ⟨place, located⟩ := List.mem_iff_getElem?.mp handed
      have conforms := (machine_sound config .migrations).children
        (.spawn (.worker claim server semaphore)) _
        (List.mem_singleton_self _)
      obtain ⟨more, next, later, finished⟩ :=
        worker_finishes rfl stops located conforms
      refine ⟨_, next, run.append later, ?_, finished⟩
      intro event inside
      rcases List.mem_append.mp inside with early | late
      · exact quiet index steps event early
      · exact quiet place more event late
    | _ => cases unsettled
  | _ => cases unsettled

end Solo

/-- In every unhindered run that starts without rows under way, each row
under way has a task that has still to end it, and that task ends it when it
is left to itself. -/
theorem no_stuck_deployment {config : Config} {database : Database}
    {events : List (Event Input Call Signal)} {pool : PanelPool}
    (ids : Ids database)
    (clear : ∀ row ∈ database.deployments, row.status.underway = false)
    (stops : ∀ row ∈ database.deployments,
      row.status.terminal = false → row.claim.stopsDatabase)
    (run : Pool.Run (machine config .migrations) unhindered (boot database)
      events pool)
    {row : DeploymentRow} (present : row ∈ pool.state.database.deployments)
    (underway : row.status.underway = true) :
    ∃ task ∈ pool.tasks, task.label.unsettled = some row.claim ∧
      ∃ later next, Pool.Run (machine config .migrations) unhindered pool
          later next ∧
        (∀ event ∈ later, ∃ index, event = .run index .normal) ∧
        Finished row.id next := by
  have start : Tended (boot database).view := by
    refine ⟨.of_ids ids, stops, ?_, ?_⟩
    all_goals
      intro row present status
      have idle := clear row present
      rw [status] at idle
      cases idle
  obtain ⟨reached, conform⟩ :=
    run.reaches (machine_sound config .migrations) (by simp [boot])
  have tended := reached.invariant Tended start
    fun _ _ tended step => tended.step step
  have running : row.status = .running := by
    have uncancelled := tended.uncancelled row present
    revert underway uncancelled
    cases row.status <;> simp [DeploymentStatus.underway]
  obtain ⟨owner, member, unsettled⟩ := tended.tended row present running
  obtain ⟨task, taskMember, rfl⟩ := List.mem_map.mp member
  refine ⟨task, taskMember, unsettled, ?_⟩
  apply unsettled_finishes taskMember (conform task taskMember) unsettled
  apply tended.stops row present
  rw [running]
  rfl

/-- A database deployment whose worker has just been spawned. -/
theorem no_stuck_deployment_spawned :
    ∃ pool row, Pool.Run (machine twoWorkers .migrations) unhindered
        (boot (single (.database .postgres 1) none))
        (startUp ++ [.arrive (.runDatabase .postgres 1 .deploy)] ++
          runs 1 12 ++ runs 0 8) pool ∧
      row ∈ pool.state.database.deployments ∧ row.status = .running ∧
      ∃ task ∈ pool.tasks, task.label.unsettled = some row.claim ∧
        ∃ later next, Pool.Run (machine twoWorkers .migrations) unhindered
            pool later next ∧
          (∀ event ∈ later, ∃ index, event = .run index .normal) ∧
          Finished row.id next := by
  simp only [exists_and_left]
  refine Pool.Run.exists_checked (fun pool =>
    ∃ row ∈ pool.state.database.deployments, row.status = .running)
    (by decide +kernel) ?_
  rintro pool run ⟨row, present, underway⟩
  exact ⟨row, present, underway,
    no_stuck_deployment (ids_single _ _) (by simp [single])
      (by simp [single]) run present (by rw [underway]; rfl)⟩

/-- A compose project is stopped: the schema refuses the status `STOPPED`,
and when the worker has gone the row is still running. -/
theorem stopped_compose_stuck :
    ∃ pool row, Pool.Run (machine twoWorkers .migrations) anyStep
        (boot (single (.compose 1) none))
        (startUp ++ [.arrive (.runCompose 1 .stop)] ++ runs 1 10 ++
          runs 0 8 ++ runs 1 17) pool ∧
      row ∈ pool.state.database.deployments ∧ row.status = .running ∧
      pool.view.labels = [.dispatcher .scanning, .bystander] := by
  simp only [exists_and_left]
  exact Pool.Run.exists_checked _ (by decide +kernel) fun _ _ stuck => stuck

end OpenOxide.Deployment
