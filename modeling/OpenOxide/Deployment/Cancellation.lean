import OpenOxide.Deployment.Ownership

/-!
# A cancelled deployment stays cancelled

`DeploymentService::cancel` reads the status of a row and then updates the
row if it still has that status; it does not look at the number of rows the
update reached.  When the dispatcher claims the row in between, the answer
is `CancelRequested` all the same, and the build runs to its end.

As long as the row still has the status that was read (`steady`), the
answer can be trusted.  With the constraints of the migrations the request
to cancel a running row is refused, so a row for which the call succeeded
was queued: it is cancelled, and nobody owns it or ever will.
-/

namespace OpenOxide.Deployment

open Concurrency

/-- The row and the status that a cancellation has read. -/
def Role.saw : Role → Option (Int × DeploymentStatus)
  | .canceller id .sawQueued => some (id, .queued)
  | .canceller id .sawRunning => some (id, .running)
  | _ => none

/-- The update of a cancellation finds the row as it was read. -/
def findsAsRead (view : PanelView) (role : Role) (op : Op) : Prop :=
  ∀ seen ∈ role.saw, ∀ statement ∈ op.updates,
    statement.status.isSome = true →
      ∃ row ∈ view.state.database.deployments,
        row.id = seen.1 ∧ row.status = seen.2

instance (view : PanelView) (role : Role) (op : Op) :
    Decidable (findsAsRead view role op) :=
  inferInstanceAs (Decidable (∀ seen ∈ role.saw, ∀ statement ∈ op.updates,
    _ → _))

def steady : PanelGuard where
  op view role op _ := findsAsRead view role op
  unwind _ _ := True
  arrive _ _ := True
  restart := True

instance : steady.Checkable where
  op view role op _ := inferInstanceAs (Decidable (findsAsRead view role op))

/-- The row is cancelled, and no task owns it. -/
structure Withdrawn (view : PanelView) (id : Int) : Prop where
  present : ∃ row ∈ view.state.database.deployments, row.id = id
  cancelled : ∀ row ∈ view.state.database.deployments, row.id = id →
    row.status = .cancelled
  unowned : view.labels.countP (Role.owns id) = 0

/-- A cancellation of the row has succeeded, or is about to say so. -/
def Promised (view : PanelView) (id : Int) : Prop :=
  .canceller id .requested ∈ view.labels ∨
    ∃ entry ∈ view.history, entry.op = .cancelReturns id .cancelRequested

variable {id : Int}

section Steps

variable {config : Config} {schema : Schema} {guard : PanelGuard}
  {view next : PanelView} {role : Role} {op : Op} {input : Input}
  {answer : op.Answer}

namespace Withdrawn

theorem acts (withdrawn : Withdrawn view id) (ids : Ids view.state.database)
    (acts : Acts config schema view next role op input answer) :
    Withdrawn next id := by
  obtain ⟨row, member, rfl⟩ := withdrawn.present
  refine ⟨?_, ?_, ?_⟩
  · obtain ⟨kept, present, same, _⟩ := acts.forward member
    exact ⟨kept, present, congrArg DeploymentClaim.id same⟩
  · intro later present same
    rcases acts.backward present with
      ⟨old, oldPresent, sameClaim, changed⟩ | ⟨fresh, phase, _, _, rfl⟩
    · have sameId := congrArg DeploymentClaim.id sameClaim
      have own : old.id = row.id := sameId.symm.trans same
      have cancelled := withdrawn.cancelled old oldPresent own
      have unowned := List.countP_eq_zero.mp withdrawn.unowned role
        acts.turns.label_mem
      rcases changed with unchanged | becomes
      · rw [unchanged, cancelled]
      · generalize later.status = status at becomes ⊢
        cases becomes with
        | claimed own queued =>
          rw [queued] at cancelled
          cases cancelled
        | dropped selected queued => rfl
        | requested selected listed unfinished =>
          rw [cancelled] at unfinished
          cases unfinished
        | recovered interrupted =>
          rw [cancelled] at interrupted
          simp at interrupted
        | finalized owner | panicked owner =>
          exact absurd (Role.owns_iff.mpr
            ⟨_, rfl, owner.symm.trans own⟩) unowned
        | killed owner => rfl
    · exact absurd same.symm (Int.ne_of_lt (ids.bound row member))
  · have none := withdrawn.unowned
    rcases acts.claims with fewer | ⟨server, semaphore, other, claims⟩
    · exact Nat.le_zero.mp (Nat.le_trans (fewer _ rfl) (Nat.le_of_eq none))
    · have different : (other.id == row.id) = false := by
        apply beq_eq_false_iff_ne.mpr
        intro same
        have cancelled := withdrawn.cancelled other claims.member same
        rw [claims.queued] at cancelled
        cases cancelled
      rw [claims.owns_count, none, different]
      rfl

theorem still (withdrawn : Withdrawn view id)
    (still : Still view next) : Withdrawn next id := by
  refine ⟨?_, ?_, ?_⟩
  · rw [still.rows]
    exact withdrawn.present
  · rw [still.rows]
    exact withdrawn.cancelled
  · exact Nat.le_zero.mp (Nat.le_trans (still.claims _ rfl)
      (Nat.le_of_eq withdrawn.unowned))

/-- A queued row that is cancelled is withdrawn. -/
theorem of_cancelDeployment {affected : Nat}
    (owned : Owned view.state.database view.labels)
    (permitted : findsAsRead view (.canceller id .sawQueued)
      (.sql (.update (cancelQueuedDeployment id))))
    (acts : Acts config schema view next (.canceller id .sawQueued)
      (.sql (.update (cancelQueuedDeployment id))) input (.ok affected)) :
    Withdrawn next id := by
  obtain ⟨row, member, own, queued⟩ := permitted _ rfl _ rfl rfl
  subst own
  have result := (Database.updateDeployments_ok acts.executed.1).1
  refine ⟨?_, ?_, ?_⟩
  · obtain ⟨kept, present, same, _⟩ := acts.forward member
    exact ⟨kept, present, congrArg DeploymentClaim.id same⟩
  · intro later present same
    rw [result] at present
    obtain ⟨old, oldPresent, rfl⟩ := Relational.mem_updateWhere.mp present
    have sameId : old.id = row.id := by
      split at same
      · exact same
      · exact same
    obtain rfl := owned.ids.eq oldPresent member sameId
    have hit : (cancelQueuedDeployment old.id).hits old = true :=
      (DeploymentUpdate.hits_guarded rfl).mpr
        ⟨by simp [cancelQueuedDeployment, cancelQueued, Selector.selects],
          by simp [queued]⟩
    rw [if_pos hit]
    rfl
  · have before := owned.unowned member queued
    rcases acts.claims with fewer | ⟨server, semaphore, other, claims⟩
    · exact Nat.le_zero.mp (Nat.le_trans (fewer _ rfl) (Nat.le_of_eq before))
    · cases claims.acting

end Withdrawn

theorem request_refused {affected : Nat}
    (permitted : findsAsRead view (.canceller id .sawRunning)
      (.sql (.update (setCancelRequested id)))) :
    ¬ Acts config .migrations view next (.canceller id .sawRunning)
      (.sql (.update (setCancelRequested id))) input (.ok affected) := by
  intro acts
  obtain ⟨row, member, own, running⟩ := permitted _ rfl _ rfl rfl
  have hit : (setCancelRequested id).hits row = true :=
    (DeploymentUpdate.hits_guarded rfl).mpr
      ⟨by simp [setCancelRequested, requestCancel, Selector.selects, own],
        by simp [running]⟩
  cases Database.execute_accepted acts.executed.1 rfl member hit

theorem advance_canceller {phase : CancelPhase}
    (reached : advance role op answer = .canceller id phase) :
    (∃ before, role = .canceller id before) ∨
      ∃ selector, role = .killer selector := by
  unfold advance at reached
  repeat' split at reached
  all_goals
    first
      | exact Or.inr ⟨_, rfl⟩
      | cases reached; exact Or.inl ⟨_, rfl⟩
      | cases reached

/-- A promise is kept when it is made. -/
theorem withdrawn_of_requested (owned : Owned view.state.database view.labels)
    (permitted : findsAsRead view role op)
    (acts : Acts config .migrations view next role op input answer)
    (reached : advance role op answer = .canceller id .requested) :
    role = .canceller id .requested ∨ Withdrawn next id := by
  rcases acts.allowed with quiet | move
  · rcases advance_harmless quiet role answer with
      same | ⟨work, _, moved⟩ | ⟨selector, other, _, moved⟩ |
        ⟨other, phase, _, seen, moved⟩
    · exact Or.inl (same.symm.trans reached)
    · cases moved.symm.trans reached
    · cases moved.symm.trans reached
    · cases moved.symm.trans reached
      rcases seen with impossible | impossible <;> cases impossible
  · rcases advance_canceller reached with ⟨before, rfl⟩ | ⟨selector, rfl⟩
    · cases move with
      | cancelDeployment =>
        rcases answer with error | affected
        · cases reached
        · exact Or.inr (.of_cancelDeployment owned permitted acts)
      | requestDeployment =>
        rcases answer with error | affected
        · cases reached
        · exact absurd acts (request_refused permitted)
      | confirm => cases reached
      | @decline _ _ result refused =>
        cases before <;> cases result <;> cases reached
      | forceKill => cases reached
    · cases move

theorem withdrawn_acts (withdrawn : Promised view id → Withdrawn view id)
    (owned : Owned view.state.database view.labels)
    (permitted : findsAsRead view role op)
    (acts : Acts config .migrations view next role op input answer)
    (promised : Promised next id) :
    Withdrawn next id := by
  have kept : Promised view id → Withdrawn next id :=
    fun before => (withdrawn before).acts owned.ids acts
  rcases promised with label | ⟨entry, member, returned⟩
  · rcases acts.turns.mem label with old | reached | born
    · exact kept (Or.inl old)
    · rcases withdrawn_of_requested owned permitted acts reached.symm with
        rfl | fresh
      · exact kept (Or.inl acts.turns.label_mem)
      · exact fresh
    · cases op with
      | spawn child =>
        cases child <;> cases List.mem_singleton.mp born
      | _ => cases born
  · rw [acts.history] at member
    rcases List.mem_cons.mp member with rfl | old
    · cases returned
      rcases acts.allowed with quiet | move
      · cases quiet
      · cases move with
        | confirm => exact kept (Or.inl acts.turns.label_mem)
        | decline _ refused => exact absurd rfl refused
    · exact kept (Or.inr ⟨entry, old, returned⟩)

/-- The invariant of steady runs. -/
structure Trusted (view : PanelView) : Prop where
  owned : Owned view.state.database view.labels
  withdrawn : ∀ id, Promised view id → Withdrawn view id

/-- Steps that are not operations make no promise. -/
theorem promised_back
    (step : View.Step (machine config schema) guard view next)
    (promised : Promised next id) :
    Promised view id ∨ ∃ role op input answer,
      Acts config schema view next role op input answer ∧
        guard.op view role op input := by
  cases happens step with
  | acts role op input answer acts permitted =>
    exact Or.inr ⟨role, op, input, answer, acts, permitted⟩
  | panics work phase inside turns state history permitted =>
    rw [Promised, history] at promised
    refine Or.inl (promised.imp_left ?_)
    intro label
    rcases turns.mem label with old | impossible | born
    · exact old
    · cases impossible
    · cases born
  | arrives call left joined labels state history permitted =>
    rw [Promised, history, labels] at promised
    refine Or.inl (promised.imp_left ?_)
    intro label
    rcases mem_arrives joined label with old | new
    · exact old
    · cases call <;> cases new
  | signalled signal labels state history =>
    rw [Promised, history, labels] at promised
    exact Or.inl promised
  | restarts labels state history permitted =>
    rw [Promised, history, labels] at promised
    refine Or.inl (promised.imp_left ?_)
    intro label
    cases label

theorem Trusted.step (trusted : Trusted view)
    (step : View.Step (machine config .migrations) steady view next) :
    Trusted next := by
  refine ⟨trusted.owned.step step, ?_⟩
  intro id promised
  rcases acts_or_still step with
    ⟨role, op, input, answer, acts, permitted⟩ | still
  · exact withdrawn_acts (trusted.withdrawn id) trusted.owned permitted acts
      promised
  · rcases promised_back step promised with
      before | ⟨role, op, input, answer, acts, permitted⟩
    · exact (trusted.withdrawn id before).still still
    · exact withdrawn_acts (trusted.withdrawn id) trusted.owned permitted acts
        promised

end Steps

/-- In every steady run, a deployment for which `cancel` has answered
`CancelRequested` is cancelled, now and in every later state. -/
theorem cancel_not_lost {config : Config} {database : Database}
    {events : List (Event Input Call Signal)} {pool : PanelPool}
    (ids : Ids database)
    (run : Pool.Run (machine config .migrations) steady (boot database) events
      pool)
    {id : Int} {entry : PanelEntry} (member : entry ∈ pool.history)
    (returned : entry.op = .cancelReturns id .cancelRequested) :
    (∃ row ∈ pool.state.database.deployments, row.id = id) ∧
      ∀ row ∈ pool.state.database.deployments, row.id = id →
        row.status = .cancelled := by
  have start : Trusted (boot database).view := by
    refine ⟨.of_ids ids, ?_⟩
    rintro id (label | ⟨entry, member, _⟩)
    · cases label
    · cases member
  have trusted := (boot_reaches run).invariant Trusted start
    fun _ _ trusted step => trusted.step step
  have withdrawn := trusted.withdrawn id (Or.inr ⟨entry, member, returned⟩)
  exact ⟨withdrawn.present, withdrawn.cancelled⟩

/-- A history in which `cancel` has answered `CancelRequested`. -/
def promisedIn (id : Int) (history : List PanelEntry) : Bool :=
  history.any fun entry => entry.op == .cancelReturns id .cancelRequested

theorem cancel_not_lost_queued :
    ∃ pool entry, Pool.Run (machine twoWorkers .migrations) steady
        (boot (single (.database .postgres 1) none))
        (startUp ++ [.arrive (.runDatabase .postgres 1 .deploy)] ++
          runs 1 12 ++ [.arrive (.cancel 1)] ++ runs 1 3 ++ runs 0 3) pool ∧
      entry ∈ pool.history ∧ entry.op = .cancelReturns 1 .cancelRequested ∧
      (∃ row ∈ pool.state.database.deployments, row.id = 1) ∧
      ∀ row ∈ pool.state.database.deployments, row.id = 1 →
        row.status = .cancelled := by
  simp only [exists_and_left]
  refine Pool.Run.exists_checked (promisedIn 1 ·.history = true)
    (by decide +kernel) ?_
  intro pool run promised
  obtain ⟨entry, member, returned⟩ := List.any_eq_true.mp promised
  have answer := beq_iff_eq.mp returned
  exact ⟨entry, member, answer,
    cancel_not_lost (ids_single _ _) run member answer⟩

/-- The cancellation reads a queued row, the dispatcher claims it, the update
reaches no row, and the build ends with `DONE`. -/
theorem cancel_lost_to_claim :
    ∃ pool entry row, Pool.Run (machine twoWorkers .migrations) anyStep
        (boot (single (.database .postgres 1) none))
        (startUp ++ [.arrive (.runDatabase .postgres 1 .deploy)] ++
          runs 1 12 ++ [.arrive (.cancel 1)] ++ runs 1 1 ++ runs 0 8 ++
          runs 1 2 ++ runs 1 12) pool ∧
      entry ∈ pool.history ∧ entry.op = .cancelReturns 1 .cancelRequested ∧
      row ∈ pool.state.database.deployments ∧ row.id = 1 ∧
      row.status = .done := by
  simp only [exists_and_left]
  refine Pool.Run.exists_checked (fun pool => promisedIn 1 pool.history = true ∧
    ∃ row ∈ pool.state.database.deployments, row.id = 1 ∧ row.status = .done)
    (by decide +kernel) ?_
  rintro pool run ⟨promised, row, present, done⟩
  obtain ⟨entry, member, returned⟩ := List.any_eq_true.mp promised
  exact ⟨entry, member, beq_iff_eq.mp returned, row, present, done⟩

end OpenOxide.Deployment
