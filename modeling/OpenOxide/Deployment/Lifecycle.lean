import OpenOxide.Deployment.Ownership

/-!
# The life of a deployment row

`Lawful` is the state machine of a deployment: queued, running, cancelling
and the three final statuses.  Two kinds of statements can leave it.  The
finalising transaction has no status guard, so it is lawful only while the
row is running: a force-kill that lost a race with the worker, and a panic
after the worker's own transaction, both rewrite a final status.  And the
cancellation request of a database also hits queued rows.

`undisturbed` excludes these, and then every status change of every run is
lawful; in particular a final status never changes again.
-/

namespace OpenOxide.Deployment

open Concurrency

/-- The status of a row that a worker is to end. -/
def DeploymentStatus.underway : DeploymentStatus → Bool
  | .running | .cancelling => true
  | _ => false

/-- The claim of a task that has still to run its finalising transaction. -/
def Role.unsettled : Role → Option DeploymentClaim
  | .dispatcher (.claimed claim _ _) => some claim
  | .worker work .running => some work.claim
  | .worker work .deciding => some work.claim
  | .worker work .handling => some work.claim
  | _ => none

/-- The transitions of a row; recovery happens while the queue starts. -/
inductive Lawful (labels : List Role) :
    DeploymentStatus → DeploymentStatus → Prop where
  | claim : Lawful labels .queued .running
  | withdraw : Lawful labels .queued .cancelled
  | request : Lawful labels .running .cancelling
  | finish {old new : DeploymentStatus} (working : old.underway = true)
      (final : new.terminal = true) : Lawful labels old new
  | recover {old : DeploymentStatus}
      (interrupted : old ∈ [.queued, .running, .cancelling])
      (recovering : ∃ role ∈ labels, role.recovering = true) :
      Lawful labels old .error

theorem Lawful.not_terminal {labels : List Role} {old new : DeploymentStatus}
    (lawful : Lawful labels old new) : old.terminal = false := by
  cases lawful with
  | finish working final =>
    revert working
    cases old <;> simp [DeploymentStatus.underway, DeploymentStatus.terminal]
  | recover interrupted recovering =>
    revert interrupted
    cases old <;> simp [DeploymentStatus.terminal]
  | _ => rfl

/-- The row with this identifier is under way. -/
def Database.underway (database : Database) (id : Int) : Prop :=
  ∀ row ∈ database.deployments, row.id = id → row.status.underway = true

instance (database : Database) (id : Int) :
    Decidable (database.underway id) :=
  inferInstanceAs (Decidable (∀ row ∈ database.deployments, row.id = id →
    row.status.underway = true))

/-- The deployment that a task is to cancel. -/
def Role.cancels : Role → Option Int
  | .canceller id _ => some id
  | _ => none

/-- A force-kill finds its row under way and nobody about to end it. -/
def killsAlone (view : PanelView) (role : Role) (op : Op) : Prop :=
  ∀ id ∈ role.cancels, op.finalizes.isSome = true →
    view.state.database.underway id ∧
      ∀ other ∈ view.labels, ∀ claim ∈ other.unsettled, claim.id ≠ id

/-- A request to cancel hits running rows only. -/
def requestsRunning (view : PanelView) (op : Op) : Prop :=
  ∀ statement ∈ op.updates, statement.status = some .cancelling →
    ∀ row ∈ view.state.database.deployments, statement.hits row = true →
      row.status = .running

instance (view : PanelView) (role : Role) (op : Op) :
    Decidable (killsAlone view role op) :=
  inferInstanceAs (Decidable (∀ id ∈ role.cancels, _ → _))

instance (view : PanelView) (op : Op) : Decidable (requestsRunning view op) :=
  inferInstanceAs (Decidable (∀ statement ∈ op.updates, _ → _))

/-- In an undisturbed run a worker also panics only while its row is under
way. -/
def undisturbed : PanelGuard where
  op view role op _ := killsAlone view role op ∧ requestsRunning view op
  unwind view role := ∀ claim ∈ role.claim?,
    view.state.database.underway claim.id
  arrive _ _ := True
  restart := True

instance : undisturbed.Checkable where
  op view role op _ := inferInstanceAs
    (Decidable (killsAlone view role op ∧ requestsRunning view op))
  unwind view role := inferInstanceAs (Decidable (∀ claim ∈ role.claim?,
    view.state.database.underway claim.id))

variable {claim : DeploymentClaim} {member role : Role}

theorem Role.unsettled_claim
    (unsettled : role.unsettled = some claim) : role.claim? = some claim := by
  unfold Role.unsettled at unsettled
  split at unsettled
  · exact unsettled
  · exact unsettled
  · exact unsettled
  · exact unsettled
  · cases unsettled

theorem Role.unsettled_aside (aside : role.aside = true) :
    role.unsettled = none := by
  cases role <;> first | rfl | cases aside

theorem remote_unsettled {op : Op} (remote : Remote role op)
    (answer : op.Answer)
    (new : member = advance role op answer ∨ member ∈ op.born) :
    member.unsettled = none ∨ member.unsettled = role.unsettled := by
  rcases new with rfl | born
  · rcases remote with quiet | ⟨aside, _⟩
    · rcases advance_harmless quiet role answer with
        same | ⟨work, _, moved⟩ | ⟨selector, id, _, moved⟩ |
          ⟨id, phase, _, _, moved⟩
      · exact Or.inr (by rw [same])
      · exact Or.inl (by rw [moved]; rfl)
      · exact Or.inl (by rw [moved]; rfl)
      · exact Or.inl (by rw [moved]; rfl)
    · exact Or.inl (Role.unsettled_aside (advance_aside aside op answer))
  · exact Or.inl (Role.unsettled_aside (born_remote remote born))

theorem Move.unsettled {op : Op} (move : Move role op)
    (central : role.aside = false)
    (other : ∀ id, op ≠ .sql (.claimQueuedDeployment id))
    (answer : op.Answer) :
    ∀ member, member = advance role op answer ∨ member ∈ op.born →
      member.unsettled = none ∨ member.unsettled = role.unsettled := by
  cases move with
  | claim server semaphore id => exact absurd rfl (other id)
  | hand => exact Permits.reachedAndBorn (.inl rfl) (.inr rfl)
  | launch | loop => exact Permits.reachedAndBorn (.inl rfl) (.inl rfl)
  | slotGet | tryAcquire =>
    cases answer <;> exact Permits.onlyReached (.inl rfl)
  | release work finished =>
    rcases finished with rfl | rfl | rfl <;>
      exact Permits.onlyReached (.inl rfl)
  | executed => exact Permits.onlyReached (.inr rfl)
  | swapStarted | recoverDeployments | recoverStatuses | wake | slotInsert
  | giveBack | finalize | panicFinalize =>
    exact Permits.onlyReached (.inl rfl)
  | _ => cases central

section Steps

variable {config : Config} {schema : Schema} {guard : PanelGuard}
  {view next : PanelView} {op : Op} {input : Input}
  {answer : op.Answer}

/-- Whoever is unsettled was so before, or has just claimed its row. -/
theorem Acts.unsettled
    (acts : Acts config schema view next role op input answer)
    (membership : member ∈ next.labels)
    (unsettled : member.unsettled = some claim) :
    (∃ old ∈ view.labels, old.unsettled = some claim) ∨
      ∃ server semaphore row,
        Claims view next role op answer server semaphore row ∧
          row.claim = claim := by
  have turned : ∀ member : Role,
      member.unsettled = none ∨ member.unsettled = role.unsettled →
      member.unsettled = some claim →
      ∃ old ∈ view.labels, old.unsettled = some claim := by
    rintro member (none | same) unsettled
    · rw [none] at unsettled
      cases unsettled
    · rw [same] at unsettled
      exact ⟨role, acts.turns.label_mem, unsettled⟩
  rcases acts.turns.mem membership with old | new
  · exact Or.inl ⟨member, old, unsettled⟩
  · rcases remote_or_central acts.allowed with remote | ⟨central, move⟩
    · exact Or.inl (turned member (remote_unsettled remote answer new)
        unsettled)
    · by_cases claiming : ∃ id, op = .sql (.claimQueuedDeployment id)
      · obtain ⟨id, rfl⟩ := claiming
        cases move with
        | claim server semaphore =>
          rcases new with rfl | born
          · rcases answer with error | found
            · cases unsettled
            · cases found with
              | none => cases unsettled
              | some found =>
                cases unsettled
                obtain ⟨row, same, claims⟩ := acts.claims_row
                exact Or.inr ⟨server, semaphore, row, claims, same⟩
          · cases born
      · exact Or.inl (turned member (move.unsettled central
          (fun id same => claiming ⟨id, same⟩) answer member new) unsettled)

/-- Whoever has still to end a row finds it under way. -/
def Pledged (view : PanelView) : Prop :=
  ∀ role ∈ view.labels, ∀ claim, role.unsettled = some claim →
    view.state.database.underway claim.id

/-- The invariant of undisturbed runs. -/
structure Orderly (view : PanelView) : Prop where
  control : Control view.state.memory view.labels
  owned : Owned view.state.database view.labels
  pledged : Pledged view

namespace Orderly

theorem settled_alone (owned : Owned next.state.database next.labels)
    {work : Worker} {phase : WorkerPhase}
    (settled : phase = .settled ∨ phase = .handled)
    (reached : .worker work phase ∈ next.labels)
    (membership : member ∈ next.labels)
    (unsettled : member.unsettled = some claim) :
    claim.id ≠ work.claim.id := by
  intro same
  have different : member ≠ .worker work phase := by
    rintro rfl
    rcases settled with rfl | rfl <;> cases unsettled
  have owns : Role.owns work.claim.id (.worker work phase) = true := by
    rcases settled with rfl | rfl <;> simp [Role.owns, Role.claim?]
  have two := two_le_countP membership reached different
    (Role.owns_iff.mpr ⟨claim, Role.unsettled_claim unsettled, same⟩) owns
  have one := owned.single work.claim.id
  omega

theorem pledged_acts (orderly : Orderly view)
    (permitted : killsAlone view role op ∧ requestsRunning view op)
    (acts : Acts config schema view next role op input answer) :
    Pledged next := by
  have ownedNext := orderly.owned.acts acts
  intro member membership claim unsettled row present same
  rcases acts.unsettled membership unsettled with
    ⟨old, oldMember, oldUnsettled⟩ | ⟨server, semaphore, claimed, claims, rfl⟩
  · have before := orderly.pledged old oldMember claim oldUnsettled
    rcases acts.backward present with
      ⟨oldRow, oldPresent, sameClaim, unchanged | becomes⟩ |
        ⟨fresh, phase, _, _, rfl⟩
    · rw [unchanged]
      have sameId := congrArg DeploymentClaim.id sameClaim
      exact before oldRow oldPresent (sameId.symm.trans same)
    · have sameId : oldRow.id = claim.id :=
        (congrArg DeploymentClaim.id sameClaim).symm.trans same
      have underway := before oldRow oldPresent sameId
      generalize row.status = status at becomes ⊢
      cases becomes with
      | claimed own queued | dropped selected queued =>
        rw [queued] at underway
        cases underway
      | requested => rfl
      | recovered interrupted =>
        have recovering : 0 < view.labels.countP Role.recovering :=
          List.countP_pos_iff.mpr ⟨_, acts.turns.label_mem, rfl⟩
        have live : 0 < view.labels.countP Role.live :=
          List.countP_pos_iff.mpr ⟨old, oldMember, by
            simp [Role.live, Role.unsettled_claim oldUnsettled]⟩
        have recovery := orderly.control.recovery
        omega
      | finalized own | panicked own =>
        exact absurd (sameId.symm.trans own) (settled_alone ownedNext
          (by simp) (acts.turns.reached_mem Bool.false_ne_true) membership
          unsettled)
      | killed own =>
        exact absurd (sameId.symm.trans own)
          ((permitted.1 _ rfl rfl).2 old oldMember claim oldUnsettled)
    · obtain ⟨own, ownPresent, rfl, _⟩ := orderly.owned.row old oldMember
        claim (Role.unsettled_claim oldUnsettled)
      exact absurd same.symm
        (Int.ne_of_lt (orderly.owned.ids.bound own ownPresent))
  · obtain ⟨kept, keptPresent, sameClaim, running⟩ := claims.running
    have sameId := congrArg DeploymentClaim.id sameClaim
    rw [ownedNext.ids.eq present keptPresent (same.trans sameId.symm), running]
    rfl

/-- The change of a row in one step. -/
theorem lawful_acts (orderly : Orderly view)
    (permitted : killsAlone view role op ∧ requestsRunning view op)
    (acts : Acts config schema view next role op input answer)
    {row later : DeploymentRow}
    (present : row ∈ view.state.database.deployments)
    (laterPresent : later ∈ next.state.database.deployments)
    (same : later.id = row.id) :
    later.status = row.status ∨
      Lawful view.labels row.status later.status := by
  rcases acts.backward laterPresent with
    ⟨old, oldPresent, sameClaim, changed⟩ | ⟨fresh, phase, _, _, rfl⟩
  · have sameId := congrArg DeploymentClaim.id sameClaim
    obtain rfl : old = row :=
      orderly.owned.ids.eq oldPresent present (sameId.symm.trans same)
    refine changed.imp_right ?_
    intro becomes
    have acting := acts.turns.label_mem
    generalize later.status = status at becomes ⊢
    cases becomes with
    | claimed own queued =>
      rw [queued]
      exact .claim
    | dropped selected queued =>
      rw [queued]
      exact .withdraw
    | requested selected listed unfinished =>
      rw [permitted.2 _ rfl rfl old present
        ((DeploymentUpdate.hits_guarded rfl).mpr ⟨selected, listed⟩)]
      exact .request
    | recovered interrupted => exact .recover interrupted ⟨_, acting, rfl⟩
    | finalized own =>
      exact .finish (orderly.pledged _ acting _ rfl old present own)
        (finalStatus_terminal _)
    | panicked own =>
      exact .finish (orderly.pledged _ acting _ rfl old present own) rfl
    | killed own =>
      exact .finish ((permitted.1 _ rfl rfl).1 old present own) rfl
  · exact absurd same (Int.ne_of_gt (orderly.owned.ids.bound row present))

theorem step (orderly : Orderly view)
    (step : View.Step (machine config schema) undisturbed view next) :
    Orderly next := by
  refine ⟨orderly.control.step step, orderly.owned.step step, ?_⟩
  cases happens step with
  | acts role op input answer acts permitted =>
    exact orderly.pledged_acts permitted acts
  | panics work phase inside turns state history permitted =>
    intro member membership claim unsettled
    rw [state]
    rcases turns.mem membership with old | rfl | new
    · exact orderly.pledged member old claim unsettled
    · cases unsettled
      apply permitted
      rcases inside with rfl | rfl | rfl <;> rfl
    · cases new
  | arrives call left joined labels state history permitted =>
    intro member membership claim unsettled
    rw [labels] at membership
    rw [state]
    rcases mem_arrives joined membership with old | rfl
    · exact orderly.pledged member old claim unsettled
    · have unclaimed := (call_fresh call).2.2.1
      rw [Role.unsettled_claim unsettled] at unclaimed
      cases unclaimed
  | signalled signal labels state history =>
    intro member membership claim unsettled
    rw [labels] at membership
    rw [state]
    cases signal <;> exact orderly.pledged member membership claim unsettled
  | restarts labels state history permitted =>
    intro member membership
    rw [labels] at membership
    cases membership

end Orderly

end Steps

/-- In every undisturbed run each status change is a transition of the state
machine, and a final status never changes. -/
theorem lawful_lifecycle {config : Config} {schema : Schema}
    {database : Database} {events : List (Event Input Call Signal)}
    {event : Event Input Call Signal} {pool next : PanelPool}
    (ids : Ids database)
    (run : Pool.Run (machine config schema) undisturbed (boot database) events
      pool)
    (meets : pool.Meets undisturbed event)
    (stepped : pool.step? (machine config schema) event = some next)
    {row later : DeploymentRow} (present : row ∈ pool.state.database.deployments)
    (laterPresent : later ∈ next.state.database.deployments)
    (same : later.id = row.id) :
    (row.status.terminal = true → later.status = row.status) ∧
      (later.status = row.status ∨
        Lawful pool.view.labels row.status later.status) := by
  have conform := run.reaches (machine_sound config schema) (by simp [boot])
  have orderly : Orderly pool.view := by
    refine conform.1.invariant Orderly ?_ fun _ _ orderly step =>
      orderly.step step
    exact ⟨control_empty _, .of_ids ids, by simp [Pledged, boot, Pool.view]⟩
  have step := (Pool.step_view (machine_sound config schema) conform.2 meets
    stepped).1
  have lawful : later.status = row.status ∨
      Lawful pool.view.labels row.status later.status := by
    rcases acts_or_still step with
      ⟨role, op, input, answer, acts, permitted⟩ | still
    · exact orderly.lawful_acts permitted acts present laterPresent same
    · have rows : later ∈ pool.view.state.database.deployments := by
        rw [← still.rows]
        exact laterPresent
      rw [orderly.owned.ids.eq rows present same]
      exact Or.inl rfl
  refine ⟨?_, lawful⟩
  intro terminal
  rcases lawful with unchanged | changed
  · exact unchanged
  · rw [changed.not_terminal] at terminal
    cases terminal

/-- The event changes a row from one status to the other. -/
def changes (config : Config) (schema : Schema)
    (event : Event Input Call Signal) (old new : DeploymentStatus)
    (pool : PanelPool) : Bool :=
  (pool.step? (machine config schema) event).any fun next =>
    pool.state.database.deployments.any fun row => row.status == old &&
      next.state.database.deployments.any fun later =>
        later.id == row.id && later.status == new

theorem changes_elim {config : Config} {schema : Schema}
    {event : Event Input Call Signal} {old new : DeploymentStatus}
    {pool : PanelPool} (changed : changes config schema event old new pool) :
    ∃ next, pool.step? (machine config schema) event = some next ∧
      ∃ row ∈ pool.state.database.deployments,
      ∃ later ∈ next.state.database.deployments,
        later.id = row.id ∧ row.status = old ∧ later.status = new := by
  unfold changes at changed
  cases stepped : pool.step? (machine config schema) event with
  | none => simp [stepped] at changed
  | some next =>
    simp only [stepped, Option.any_some, List.any_eq_true, Bool.and_eq_true,
      beq_iff_eq] at changed
    obtain ⟨row, present, was, later, laterPresent, same, becomes⟩ := changed
    exact ⟨next, rfl, row, present, later, laterPresent, same, was, becomes⟩

/-- An application on a remote server is deployed up to the point at which
its worker has stored a pid file; the schema refuses the status `STARTING`,
so the dispatcher is woken by the interval. -/
def remoteBuild : List (Event Input Call Signal) :=
  startUp ++ [.arrive (.runApplication 1 .deploy)] ++ runs 1 10 ++
    [.signal .interval] ++ runs 0 8 ++ runs 1 12

theorem lawful_lifecycle_done :
    ∃ pool next, Pool.Run (machine twoWorkers .migrations) undisturbed
        (boot (single (.application 1) (some 7))) (remoteBuild ++ runs 1 4)
        pool ∧
      pool.step? (machine twoWorkers .migrations) (.run 1 .normal) =
        some next ∧
      ∃ row ∈ pool.state.database.deployments,
      ∃ later ∈ next.state.database.deployments,
        row.status = .running ∧ later.status = .done ∧
        (row.status.terminal = true → later.status = row.status) ∧
        (later.status = row.status ∨
          Lawful pool.view.labels row.status later.status) := by
  simp only [exists_and_left]
  refine Pool.Run.exists_checked (fun pool =>
    pool.check undisturbed (.run 1 .normal : Event Input Call Signal) = true ∧
      changes twoWorkers .migrations (.run 1 .normal) .running .done pool =
        true) (by decide +kernel) ?_
  rintro pool run ⟨checked, changed⟩
  obtain ⟨next, stepped, row, present, later, laterPresent, same, was, final⟩ :=
    changes_elim changed
  exact ⟨next, stepped, row, present, later, laterPresent, was,
    final, lawful_lifecycle (ids_single _ _) run
      (Pool.meets_of_check undisturbed checked) stepped present laterPresent
      same⟩

/-- A force-kill has read a running deployment; the worker finishes it and
forgets its token; the force-kill then overwrites the final status. -/
theorem force_kill_overwrites_done :
    ∃ pool next, Pool.Run (machine twoWorkers .migrations) anyStep
        (boot (single (.application 1) (some 7)))
        (remoteBuild ++ [.arrive (.forceKillDeployment 1)] ++ runs 3 3 ++
          runs 1 6 ++ runs 3 5) pool ∧
      pool.step? (machine twoWorkers .migrations) (.run 3 .normal) =
        some next ∧
      ∃ row ∈ pool.state.database.deployments,
      ∃ later ∈ next.state.database.deployments,
        later.id = row.id ∧ row.status = .done ∧
          later.status = .cancelled := by
  simp only [exists_and_left]
  refine Pool.Run.exists_checked
    (changes twoWorkers .migrations (.run 3 .normal) .done .cancelled · = true)
    (by decide +kernel) ?_
  intro pool run changed
  exact changes_elim changed

end OpenOxide.Deployment
