import OpenOxide.Deployment.Conformance

/-!
# What one step of the panel can do

The invariants of the following modules are statements about the view of a
pool: the panel's state, the roles of its tasks and the history.  This
module says once what a step does to each of them.  Harmless operations are
dealt with here for every invariant: they leave the semaphores, the flags
and all deployment statuses alone, and they spawn only bystanders.
-/

namespace OpenOxide.Deployment

open Concurrency

variable {config : Config} {schema : Schema}

namespace Op

/-- The row an operation inserts. -/
def creates : Op → Option NewDeployment
  | .sql (.createQueued new) => some new
  | _ => none

/-- The row an operation claims. -/
def claims : Op → Option Int
  | .sql (.claimQueuedDeployment id) => some id
  | _ => none

/-- The update of rows an operation is. -/
def updates : Op → Option DeploymentUpdate
  | .sql (.update statement) => some statement
  | _ => none

/-- The finalising transaction an operation is. -/
def finalizes : Op → Option Finalization
  | .sql (.finalizeWithResource final) => some final
  | _ => none

end Op

/-- The semaphores, the slots and the start flag. -/
structure SameControl (before after : Memory) : Prop where
  started : after.started = before.started
  slots : after.slots = before.slots
  available : after.available = before.available
  nextSemaphore : after.nextSemaphore = before.nextSemaphore

theorem SameControl.refl (memory : Memory) : SameControl memory memory :=
  ⟨rfl, rfl, rfl, rfl⟩

/-- Rows keep their places, identifiers, targets and statuses. -/
def SameStatuses (before after : Database) : Prop :=
  after.deployments.map (fun row => (row.id, row.target, row.status)) =
      before.deployments.map (fun row => (row.id, row.target, row.status)) ∧
    after.nextId = before.nextId

theorem SameStatuses.refl (database : Database) :
    SameStatuses database database :=
  ⟨rfl, rfl⟩

variable {query : Query}

theorem sameStatuses_of_neutral {database next : Database}
    {answer : query.Answer} (neutral : query.neutral)
    (succeeded : database.execute schema query = .ok (next, answer)) :
    SameStatuses database next := by
  obtain ⟨rows, fresh, -⟩ := Database.execute_ok succeeded
  rw [neutral.2 database, List.append_nil] at rows
  constructor
  · rw [rows, List.map_map]
    apply List.map_congr_left
    intro row _
    simp [Query.rewrite_status_of_neutral neutral.1 row]
  · simpa [neutral.2 database] using fresh

variable {op : Op}

theorem exec_harmless (quiet : harmless op = true) (input : Input)
    (panel : Panel) :
    SameControl panel.memory (Panel.exec config schema op input panel).1.memory ∧
      SameStatuses panel.database
        (Panel.exec config schema op input panel).1.database := by
  cases op with
  | sql query =>
    exact ⟨.refl _, Database.attempt_induction (SameStatuses _) (.refl _)
      fun _ _ => sameStatuses_of_neutral (neutral_of_harmless quiet)⟩
  | memory op =>
    refine ⟨?_, .refl _⟩
    cases op with
    | cancelById key =>
      simp only [Panel.exec, Memory.perform]
      split <;> exact ⟨rfl, rfl, rfl, rfl⟩
    | notify | resetDefault | cancellationToken | newToken | isCancelled
    | removeState => exact ⟨rfl, rfl, rfl, rfl⟩
    | _ => cases quiet
  | outside | spawn =>
    exact ⟨.refl _, .refl _⟩
  | _ => cases quiet

theorem advance_harmless (quiet : harmless op = true) (role : Role)
    (answer : op.Answer) :
    advance role op answer = role ∨
      (∃ worker, (role = .worker worker .deciding ∨
          role = .worker worker .handling) ∧
        advance role op answer = .worker worker .abandoned) ∨
      (∃ selector id, role = .killer selector ∧
        advance role op answer = .canceller id .asking) ∨
      ∃ id phase, role = .canceller id .asking ∧
        (phase = .sawQueued ∨ phase = .sawRunning) ∧
        advance role op answer = .canceller id phase := by
  by_cases calm : role.calm = true
  · exact Or.inl (advance_of_calm calm op answer quiet)
  · unfold advance
    split <;> simp_all [harmless, Role.calm]
    all_goals split <;> simp_all

/-- Roles that have no part in the start-up, the dispatcher or a worker. -/
def Role.aside : Role → Bool
  | .boot _ | .dispatcher _ | .worker _ _ => false
  | _ => true

variable {role : Role}

theorem advance_aside (aside : role.aside = true) (op : Op)
    (answer : op.Answer) : (advance role op answer).aside = true := by
  unfold advance
  repeat' split
  all_goals first | rfl | exact aside

/-- A step that concerns neither the start-up, nor the dispatcher, nor the
life of a worker. -/
def Remote (role : Role) (op : Op) : Prop :=
  harmless op = true ∨ role.aside = true ∧ Move role op

theorem remote_or_central (allowed : protocol.allows role op) :
    Remote role op ∨ role.aside = false ∧ Move role op := by
  rcases allowed with quiet | move
  · exact Or.inl (Or.inl quiet)
  · cases aside : role.aside with
    | true => exact Or.inl (Or.inr ⟨aside, move⟩)
    | false => exact Or.inr ⟨rfl, move⟩

/-- A trait of roles that remote steps cannot change. -/
structure Blind {α : Type} (trait : Role → α) : Prop where
  deciding : ∀ worker, trait (.worker worker .abandoned) =
    trait (.worker worker .deciding) := by
      intro worker
      rfl
  handling : ∀ worker, trait (.worker worker .abandoned) =
    trait (.worker worker .handling) := by
      intro worker
      rfl
  aside : ∀ role, role.aside = true → trait role = trait .bystander := by
    intro role aside
    cases role <;> first | rfl | cases aside

theorem Blind.advance {α : Type} {trait : Role → α} (blind : Blind trait)
    (remote : Remote role op) (answer : op.Answer) :
    trait (Deployment.advance role op answer) = trait role := by
  rcases remote with quiet | ⟨aside, _⟩
  · rcases advance_harmless quiet role answer with
      same | ⟨worker, rfl | rfl, moved⟩ | ⟨selector, id, rfl, moved⟩ |
        ⟨id, phase, rfl, _, moved⟩
    · rw [same]
    · rw [moved, blind.deciding]
    · rw [moved, blind.handling]
    · rw [moved, blind.aside _ rfl, blind.aside (.killer selector) rfl]
    · rw [moved, blind.aside _ rfl, blind.aside (.canceller id .asking) rfl]
  · rw [blind.aside _ (advance_aside aside op answer), blind.aside _ aside]

theorem born_harmless (quiet : harmless op = true)
    (member : role ∈ op.born) : role = .bystander := by
  cases op with
  | spawn child =>
    cases child with
    | retryStaleRemoteCleanup | recordBuilderEvents =>
      simpa [Op.born, Spawn.role] using member
    | _ => cases quiet
  | _ => cases member

theorem born_remote (remote : Remote role op)
    {child : Role} (member : child ∈ op.born) : child.aside = true := by
  rcases remote with quiet | ⟨aside, move⟩
  · rw [born_harmless quiet member]
    rfl
  · cases move with
    | spawnStop job =>
      obtain rfl := List.mem_singleton.mp member
      rfl
    | launch | hand | loop => cases aside
    | _ => cases member

theorem exec_remote {role : Role} {op : Op} (remote : Remote role op)
    (input : Input) (panel : Panel) :
    SameControl panel.memory
      (Panel.exec config schema op input panel).1.memory := by
  rcases remote with quiet | ⟨aside, move⟩
  · exact (exec_harmless quiet input panel).1
  · cases move with
    | swapStarted | wake | slotGet | slotInsert | tryAcquire | giveBack
    | release => cases aside
    | _ => exact .refl _

/-- The roles of a pool around a step of one of its tasks. -/
abbrev Turns (role reached : Role) (born labels next : List Role) : Prop :=
  Replaced (fun role => ended role = true) role reached born labels next

theorem Blind.countP {kind : Role → Bool} (blind : Blind kind)
    (bystander : kind .bystander = false)
    (gone : ∀ role, ended role = true → kind role = false)
    (remote : Remote role op) {answer : op.Answer}
    {labels next : List Role}
    (turns : Turns role (Deployment.advance role op answer) op.born labels
      next) :
    next.countP kind = labels.countP kind := by
  have counted := Replaced.countP turns kind (gone _)
  have newborn : op.born.countP kind = 0 := by
    rw [List.countP_eq_zero]
    intro child member
    rw [blind.aside child (born_remote remote member), bystander]
    simp
  rw [blind.advance remote answer, newborn] at counted
  omega

/-- One task performs one operation. -/
structure Acts (config : Config) (schema : Schema) (view next : PanelView)
    (role : Role) (op : Op) (input : Input) (answer : op.Answer) : Prop where
  allowed : harmless op = true ∨ Move role op
  ready : Panel.ready op view.state = true
  outcome : Panel.exec config schema op input view.state =
    (next.state, answer)
  turns : Turns role (advance role op answer) op.born view.labels next.labels
  history : next.history = ⟨role, op, answer⟩ :: view.history

namespace Acts

variable {view next : PanelView} {input : Input}
  {answer : op.Answer}

theorem state (acts : Acts config schema view next role op input answer) :
    (Panel.exec config schema op input view.state).1 = next.state :=
  congrArg Prod.fst acts.outcome

theorem answered (acts : Acts config schema view next role op input answer) :
    (Panel.exec config schema op input view.state).2 = answer :=
  congrArg Prod.snd acts.outcome

theorem executed {value : query.Answer}
    (acts : Acts config schema view next role (.sql query) input
      (.ok value)) :
    view.state.database.execute schema query =
        .ok (next.state.database, value) ∧
      next.state.memory = view.state.memory := by
  have outcome := acts.outcome
  simp only [Panel.exec] at outcome
  rcases Database.attempt_cases schema view.state.database query input with
    ⟨error, failed⟩ | ⟨after, result, attempted, succeeded⟩
  · rw [failed] at outcome
    cases congrArg Prod.snd outcome
  · rw [attempted] at outcome
    cases congrArg Prod.snd outcome
    have state : ⟨after, view.state.memory⟩ = next.state :=
      congrArg Prod.fst outcome
    rw [← state]
    exact ⟨succeeded, rfl⟩

theorem failed {error : SqlError}
    (acts : Acts config schema view next role (.sql query) input
      (.error error)) :
    next.state = view.state := by
  have outcome := acts.outcome
  simp only [Panel.exec] at outcome
  rcases Database.attempt_cases schema view.state.database query input with
    ⟨message, failed⟩ | ⟨after, result, attempted, succeeded⟩
  · rw [failed] at outcome
    exact (congrArg Prod.fst outcome).symm
  · rw [attempted] at outcome
    cases congrArg Prod.snd outcome

end Acts

theorem children_born (config : Config) (schema : Schema) (op : Op) :
    ((machine config schema).children op).map Task.label = op.born := by
  cases op <;> rfl

theorem Acts.of_run {pool next : PanelPool} {index : Nat} {input : Input}
    {rest : op.Answer → Action Unit}
    (found : pool.tasks[index]? = some ⟨role, .call op rest⟩)
    (follows : (machine config schema).TaskFollows ⟨role, .call op rest⟩)
    (stepped : pool.step? (machine config schema) (.run index input) =
      some next) :
    Acts config schema pool.view next.view role op input
      (Panel.exec config schema op input pool.state).2 := by
  obtain ⟨ready, replaced, result⟩ := Pool.run_view found follows stepped
  rw [children_born] at replaced
  rw [result] at replaced ⊢
  exact ⟨follows.1, ready, rfl, replaced, rfl⟩

/-- Everything a step of the panel can be. -/
inductive Happens (config : Config) (schema : Schema) (guard : PanelGuard)
    (view next : PanelView) : Prop where
  | acts (role : Role) (op : Op) (input : Input) (answer : op.Answer)
      (acts : Acts config schema view next role op input answer)
      (permitted : guard.op view role op input)
  | panics (worker : Worker) (phase : WorkerPhase)
      (inside : phase = .running ∨ phase = .deciding ∨ phase = .settled)
      (turns : Turns (.worker worker phase) (.worker worker .handling) []
        view.labels next.labels)
      (state : next.state = view.state)
      (history : next.history = view.history)
      (permitted : guard.unwind view (.worker worker phase))
  | arrives (call : Call) (left : List Role)
      (joined : left = [call.role] ∨ left = [])
      (labels : next.labels = view.labels ++ left)
      (state : next.state = view.state)
      (history : next.history = view.history)
      (permitted : guard.arrive view call)
  | signalled (signal : Signal)
      (labels : next.labels = view.labels)
      (state : next.state = view.state.signal signal)
      (history : next.history = view.history)
  | restarts
      (labels : next.labels = [])
      (state : next.state = view.state.restart)
      (history : next.history = view.history)
      (permitted : guard.restart)

theorem happens {guard : PanelGuard} {view next : PanelView}
    (step : View.Step (machine config schema) guard view next) :
    Happens config schema guard view next := by
  cases step with
  | @op labels role op input replaced allowed ready permitted =>
    rw [children_born] at replaced
    exact .acts role op input _ ⟨allowed, ready, rfl, replaced, rfl⟩
      permitted
  | @unwind labels role handler replaced handled permitted =>
    have cases : ∃ worker phase, role = .worker worker phase ∧
        (phase = .running ∨ phase = .deciding ∨ phase = .settled) ∧
        handler.label = .worker worker .handling := by
      unfold machine unwind at handled
      dsimp only at handled
      split at handled
      all_goals first
        | exact ⟨_, _, rfl, by simp, by cases handled; rfl⟩
        | cases handled
    obtain ⟨worker, phase, rfl, inside, label⟩ := cases
    rw [label] at replaced
    exact .panics worker phase inside replaced rfl rfl permitted
  | @arrive left call permitted joined =>
    refine .arrives call left ?_ rfl rfl rfl permitted
    exact joined.imp_right And.left
  | signal signal => exact .signalled signal rfl rfl rfl
  | restart permitted => exact .restarts rfl rfl rfl permitted

end OpenOxide.Deployment
