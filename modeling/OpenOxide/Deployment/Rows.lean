import OpenOxide.Deployment.Steps

/-!
# How the rows of the queue change

A step of the panel rewrites the rows of `deployments` in place and appends
at most one row.  `Becomes` lists the ways in which a row gets a new status,
with the role that does it.  Apart from its status, what a claim says about
a row never changes.
-/

namespace OpenOxide.Deployment

open Concurrency

/-- The status changes of a row. -/
inductive Becomes : Role → Op → DeploymentRow → DeploymentStatus → Prop where
  | claimed {server : ServerKey} {semaphore : Nat} {id : Int}
      {row : DeploymentRow} (own : row.id = id)
      (queued : row.status = .queued) :
      Becomes (.dispatcher (.holding server semaphore))
        (.sql (.claimQueuedDeployment id)) row .running
  | dropped {role : Role} {selector : Selector} {row : DeploymentRow}
      (selected : selector.selects row = true)
      (queued : row.status = .queued) :
      Becomes role (.sql (.update (cancelQueued selector))) row .cancelled
  | requested {role : Role} {selector : Selector}
      {statuses : List DeploymentStatus} {row : DeploymentRow}
      (selected : selector.selects row = true)
      (listed : row.status ∈ statuses)
      (unfinished : row.status.terminal = false) :
      Becomes role (.sql (.update (requestCancel selector statuses))) row
        .cancelling
  | recovered {row : DeploymentRow}
      (interrupted : row.status ∈ [.queued, .running, .cancelling]) :
      Becomes (.boot .recovering) (.sql (.update markInterruptedAsRecovered))
        row .error
  | finalized {work : Worker} {error : Option String} {row : DeploymentRow}
      (own : row.id = work.claim.id) :
      Becomes (.worker work .deciding)
        (.sql (.finalizeWithResource (work.claim.finalization error))) row
        (finalStatus error)
  | panicked {work : Worker} {row : DeploymentRow}
      (own : row.id = work.claim.id) :
      Becomes (.worker work .handling)
        (.sql (.finalizeWithResource work.claim.panicFinalization)) row .error
  | killed {id applicationId : Int} {row : DeploymentRow}
      (own : row.id = id) :
      Becomes (.canceller id .inactive)
        (.sql (.finalizeWithResource (forceKillFinalization applicationId id)))
        row .cancelled

theorem finalStatus_terminal (error : Option String) :
    (finalStatus error).terminal = true := by
  cases error with
  | none => rfl
  | some message =>
    simp only [finalStatus]
    split <;> rfl

variable {row : DeploymentRow} {role : Role}

theorem Becomes.ne_queued {op : Op} {status : DeploymentStatus}
    (becomes : Becomes role op row status) :
    status ≠ .queued := by
  cases becomes with
  | @finalized work error row own =>
    intro queued
    have terminal := finalStatus_terminal error
    rw [queued] at terminal
    cases terminal
  | _ => nofun

theorem becomes_requested {selector : Selector}
    {statuses : List DeploymentStatus}
    (hit : (requestCancel selector statuses).hits row = true)
    (unfinished : ∀ status ∈ statuses, status.terminal = false) :
    Becomes role (.sql (.update (requestCancel selector statuses))) row
      .cancelling := by
  obtain ⟨selected, listed⟩ := (DeploymentUpdate.hits_guarded rfl).mp hit
  exact .requested selected listed (unfinished _ listed)

theorem Becomes.unfinished {op : Op} {status : DeploymentStatus}
    (becomes : Becomes role op row status)
    (left : status.terminal = false) : row.status.terminal = false := by
  cases becomes with
  | claimed own queued =>
    rw [queued]
    rfl
  | requested selected listed unfinished => exact unfinished
  | finalized own =>
    rw [finalStatus_terminal] at left
    cases left
  | _ => cases left

/-- A row that a move hits gets the status the statement assigns. -/
theorem becomes_of_move {query : Query}
    (move : Move role (.sql query)) {statement : DeploymentUpdate}
    (updates : query.update? = some statement)
    (hit : statement.hits row = true) :
    Becomes role (.sql query) row (statement.change row).status := by
  cases move with cases updates
  | claim =>
    have hits := claimUpdate_hits.mp hit
    exact .claimed hits.1 hits.2
  | cancelQueue | cancelDeployment | cleanup =>
    have hits := (DeploymentUpdate.hits_guarded rfl).mp hit
    exact .dropped hits.1 (by simpa using hits.2)
  | requestCancel key requests =>
    cases key with
    | application | database =>
      cases requests
      exact becomes_requested hit (by simp [DeploymentStatus.terminal])
    | compose id => cases requests
  | requestDeployment id =>
    exact becomes_requested hit (by simp [DeploymentStatus.terminal])
  | recoverDeployments =>
    have hits := (DeploymentUpdate.hits_guarded rfl).mp hit
    exact .recovered hits.2
  | finalize work error =>
    exact .finalized (finalization_hits.mp hit)
  | panicFinalize work =>
    exact .panicked (finalization_hits.mp hit)
  | forceKill id applicationId =>
    exact .killed (finalization_hits.mp hit)

/-- The rows before and after a step of a task. -/
structure Rewrites (before after : Database) (role : Role) (op : Op)
    (change : DeploymentRow → DeploymentRow)
    (inserted : List DeploymentRow) : Prop where
  rows : after.deployments = before.deployments.map change ++ inserted
  nextId : after.nextId = before.nextId + inserted.length
  claim : ∀ row ∈ before.deployments, (change row).claim = row.claim
  status : ∀ row ∈ before.deployments, (change row).status = row.status ∨
    Becomes role op row (change row).status
  new : inserted = [] ∨ ∃ fresh phase,
    op = .sql (.createQueued fresh) ∧ role = .service fresh.key phase ∧
      inserted = [fresh.row before.nextId before.now]

theorem rewrites_same {before after : Database} (role : Role) (op : Op)
    (rows : after.deployments = before.deployments)
    (nextId : after.nextId = before.nextId) :
    Rewrites before after role op id [] where
  rows := by simpa using rows
  nextId := by simpa using nextId
  claim _ _ := rfl
  status _ _ := Or.inl rfl
  new := Or.inl rfl

theorem rewrites_execute {schema : Schema} {before after : Database}
    {query : Query} {answer : query.Answer}
    (allowed : harmless (.sql query) = true ∨ Move role (.sql query))
    (succeeded : before.execute schema query = .ok (after, answer)) :
    Rewrites before after role (.sql query) query.rewrite
      (query.inserted before) := by
  obtain ⟨rows, nextId, -⟩ := Database.execute_ok succeeded
  refine ⟨rows, nextId, ?_, ?_, ?_⟩
  · intro row _
    unfold Query.rewrite
    split
    · split <;> rfl
    · rfl
  · intro row _
    rcases allowed with quiet | move
    · exact Or.inl
        (Query.rewrite_status_of_neutral (neutral_of_harmless quiet).1 row)
    · cases updates : query.update? with
      | none => exact Or.inl (by simp [Query.rewrite, updates])
      | some statement =>
        rw [Query.rewrite_of_update updates]
        by_cases hit : statement.hits row = true
        · rw [if_pos hit]
          exact Or.inr (becomes_of_move move updates hit)
        · rw [if_neg hit]
          exact Or.inl rfl
  · rcases allowed with quiet | move
    · exact Or.inl ((neutral_of_harmless quiet).2 before)
    · cases move with
      | create fresh unborn => exact Or.inr ⟨fresh, _, rfl, rfl, rfl⟩
      | _ => exact Or.inl rfl

section Steps

variable {config : Config} {schema : Schema} {view next : PanelView}
  {op : Op} {input : Input} {answer : op.Answer}

section

variable (acts : Acts config schema view next role op input answer)

include acts

theorem Acts.rewrites :
    ∃ change inserted, Rewrites view.state.database next.state.database role
      op change inserted := by
  rw [← acts.state]
  cases op with
  | sql query =>
    exact Database.attempt_induction
      (fun after => ∃ change inserted, Rewrites view.state.database after
        role (.sql query) change inserted)
      ⟨id, [], rewrites_same _ _ rfl rfl⟩
      fun _ _ succeeded => ⟨_, _, rewrites_execute acts.allowed succeeded⟩
  | _ => exact ⟨id, [], rewrites_same _ _ rfl rfl⟩

theorem Acts.forward (member : row ∈ view.state.database.deployments) :
    ∃ kept ∈ next.state.database.deployments, kept.claim = row.claim ∧
      (kept.status = row.status ∨ Becomes role op row kept.status) := by
  obtain ⟨change, inserted, rewrites⟩ := acts.rewrites
  refine ⟨change row, ?_, rewrites.claim row member,
    rewrites.status row member⟩
  rw [rewrites.rows]
  exact List.mem_append_left _ (List.mem_map_of_mem member)

theorem Acts.backward (member : row ∈ next.state.database.deployments) :
    (∃ old ∈ view.state.database.deployments, row.claim = old.claim ∧
      (row.status = old.status ∨ Becomes role op old row.status)) ∨
      ∃ fresh phase, op = .sql (.createQueued fresh) ∧
        role = .service fresh.key phase ∧
        row = fresh.row view.state.database.nextId view.state.database.now := by
  obtain ⟨change, inserted, rewrites⟩ := acts.rewrites
  rw [rewrites.rows] at member
  rcases List.mem_append.mp member with kept | new
  · obtain ⟨old, present, rfl⟩ := List.mem_map.mp kept
    exact Or.inl ⟨old, present, rewrites.claim old present,
      rewrites.status old present⟩
  · rcases rewrites.new with none | ⟨fresh, phase, created, service, one⟩
    · rw [none] at new
      cases new
    · rw [one] at new
      exact Or.inr ⟨fresh, phase, created, service,
        List.mem_singleton.mp new⟩

/-- A status that a step has written is one the schema accepts. -/
theorem Acts.accepted (member : row ∈ next.state.database.deployments) :
    (∃ old ∈ view.state.database.deployments, row.status = old.status) ∨
      row.status = .queued ∨ schema.deploymentStatus row.status = true := by
  have unchanged : next.state.database.deployments =
      view.state.database.deployments →
      ∃ old ∈ view.state.database.deployments, row.status = old.status := by
    intro rows
    rw [rows] at member
    exact ⟨row, member, rfl⟩
  cases op with
  | sql query =>
    rcases answer with error | value
    · exact Or.inl (unchanged (by rw [acts.failed]))
    · have succeeded := acts.executed.1
      rw [(Database.execute_ok succeeded).deployments] at member
      rcases List.mem_append.mp member with rewritten | inserted
      · obtain ⟨old, present, rfl⟩ := List.mem_map.mp rewritten
        cases updates : query.update? with
        | none => exact Or.inl ⟨old, present, by simp [Query.rewrite, updates]⟩
        | some statement =>
          rw [Query.rewrite_of_update updates]
          by_cases hit : statement.hits old = true
          · rw [if_pos hit]
            have accepted := Database.execute_accepted succeeded updates
              present hit
            rw [DeploymentUpdate.change_status]
            cases written : statement.status with
            | none => exact Or.inl ⟨old, present, rfl⟩
            | some status =>
              rw [written] at accepted
              exact Or.inr (Or.inr accepted)
          · rw [if_neg hit]
            exact Or.inl ⟨old, present, rfl⟩
      · cases query with
        | createQueued new =>
          rw [List.mem_singleton.mp inserted]
          exact Or.inr (Or.inl rfl)
        | _ => cases inserted
  | _ =>
    have state := acts.state
    exact Or.inl (unchanged (by rw [← state]; rfl))

end

end Steps

/-- Row identifiers are distinct and below the next one. -/
structure Ids (database : Database) : Prop where
  unique : (database.deployments.map DeploymentRow.id).Nodup
  bound : ∀ row ∈ database.deployments, row.id < database.nextId

namespace Ids

variable {config : Config} {schema : Schema} {guard : PanelGuard}
  {view next : PanelView} {op : Op} {input : Input}
  {answer : op.Answer} {database : Database}

theorem eq (ids : Ids database) {row other : DeploymentRow}
    (member : row ∈ database.deployments)
    (otherMember : other ∈ database.deployments) (same : row.id = other.id) :
    row = other :=
  List.inj_on_of_nodup_map ids.unique member otherMember same

theorem acts (ids : Ids view.state.database)
    (acts : Acts config schema view next role op input answer) :
    Ids next.state.database ∧
      view.state.database.nextId ≤ next.state.database.nextId := by
  obtain ⟨change, inserted, rewrites⟩ := acts.rewrites
  have kept : (view.state.database.deployments.map change).map
      DeploymentRow.id =
        view.state.database.deployments.map DeploymentRow.id := by
    rw [List.map_map]
    apply List.map_congr_left
    intro row member
    exact congrArg DeploymentClaim.id (rewrites.claim row member)
  have keyed : Relational.Keyed DeploymentRow.id view.state.database.nextId
      (view.state.database.deployments.map change) := by
    refine ⟨kept ▸ ids.unique, ?_⟩
    intro row member
    obtain ⟨old, present, rfl⟩ := List.mem_map.mp member
    have same : (change old).id = old.id :=
      congrArg DeploymentClaim.id (rewrites.claim old present)
    rw [same]
    exact ids.bound old present
  have later : Relational.Keyed DeploymentRow.id next.state.database.nextId
      next.state.database.deployments := by
    rw [rewrites.rows, rewrites.nextId]
    rcases rewrites.new with rfl | ⟨fresh, phase, _, _, rfl⟩
    · simpa using keyed
    · exact keyed.insert rfl
  refine ⟨⟨later.distinct, later.below⟩, ?_⟩
  rw [rewrites.nextId]
  omega

end Ids

end OpenOxide.Deployment
