import OpenOxide.Deployment.History
import OpenOxide.Deployment.Line

/-!
# When clearing the history is safe

The calls that clear the history take every row that is neither `QUEUED` nor
`RUNNING` for finished, and `delete` takes any row.  A deployment that is being
cancelled loses its row and its log under its worker, and so does a running one
that is deleted.  The count of `clear_all` comes from its `SELECT`, and the rows
go with a second statement.

A run is careful when the calls choose rows with a final status whose worker has
ended, when nobody ends or cancels a deployment between a call's `SELECT` and its
`DELETE`, and when the statuses are written in the order of their life cycle
(`undisturbed`).  In every careful run the row and the log of a live deployment
stay, and the counts are right.
-/

namespace OpenOxide.Deployment

open Concurrency

abbrev HistoryView := View (Op ⊕ HistoryOp) (Both Op.Answer HistoryOp.Answer)
  (Panel × Files) (Role × HistoryStage)
abbrev HistoryPool := Pool (Op ⊕ HistoryOp) (Both Op.Answer HistoryOp.Answer)
  (Panel × Files) (Role × HistoryStage)
abbrev HistoryGuard := Guard (Op ⊕ HistoryOp)
  (Both Op.Answer HistoryOp.Answer) (Panel × Files) Input (Role × HistoryStage)
  (Call ⊕ HistoryCall)

/-- The operation gives rows a status other than `QUEUED` and `RUNNING`. -/
def Op.finishes : Op → Bool
  | .sql (.update statement) =>
    statement.status.any fun status => status != .queued && status != .running
  | .sql (.finalizeWithResource _) => true
  | _ => false

/-- The log of the row is its own, or none of the logs of deployments. -/
def DeploymentRow.ownLog (config : Config) (row : DeploymentRow) : Bool :=
  row.logPath == config.deploymentLogFile row.id ||
    !(config.deploymentLogs ++ "/").toList.isPrefixOf row.logPath.toList

/-- A deployment that has come to its end: its status is final, and its worker
is not on the way from its last transaction to its end. -/
def historical (config : Config) (view : PanelView) (row : DeploymentRow) :
    Bool :=
  row.status.terminal && row.ownLog config &&
    view.labels.all fun role => role.claim?.all fun claim =>
      claim.id != row.id || role.unsettled.isSome

def HistoryView.clearing (view : HistoryView) : Nat :=
  view.labels.countP fun label => label.2.clearing

/-- The operations of the history calls in a careful run. -/
def permitsHistory (config : Config) (view : HistoryView) : HistoryOp → Prop
  | .getById id => ∀ row ∈ view.state.1.database.deployments, row.id = id →
      historical config view.base row = true
  | .selectLogPaths filter | .listFinishedIds filter =>
    ∀ row ∈ view.state.1.database.finished filter,
      historical config view.base row = true
  | .delete _ => HistoryView.clearing view = 0
  | .deleteFiltered _ | .deleteFinished _ => HistoryView.clearing view ≤ 1
  | _ => True

instance (config : Config) (view : HistoryView) (op : HistoryOp) :
    Decidable (permitsHistory config view op) :=
  match op with
  | .getById id => inferInstanceAs (Decidable
      (∀ row ∈ view.state.1.database.deployments, row.id = id → _))
  | .selectLogPaths filter | .listFinishedIds filter => inferInstanceAs
      (Decidable (∀ row ∈ view.state.1.database.finished filter, _))
  | .delete _ => inferInstanceAs (Decidable (HistoryView.clearing view = 0))
  | .deleteFiltered _ | .deleteFinished _ =>
    inferInstanceAs (Decidable (HistoryView.clearing view ≤ 1))
  | .pathExists _ | .removeFile _ | .returns _ => .isTrue trivial

/-- The operations of the queue in a careful run; `clearing` says that a call is
between its `SELECT` and its `DELETE`. -/
def quietly (clearing : Bool) : PanelGuard where
  op view role op input := undisturbed.op view role op input ∧
    (clearing = true → op.finishes = false)
  unwind := undisturbed.unwind
  arrive _ _ := True
  restart := True

def permits (config : Config) (view : HistoryView) (label : Role × HistoryStage)
    (op : Op ⊕ HistoryOp) (input : Input) : Prop :=
  match op with
  | .inl op => (quietly (HistoryView.clearing view != 0)).op view.base label.1
      op input
  | .inr op => permitsHistory config view op

instance (config : Config) (view : HistoryView) (label : Role × HistoryStage)
    (op : Op ⊕ HistoryOp) (input : Input) :
    Decidable (permits config view label op input) :=
  match op with
  | .inl op => inferInstanceAs (Decidable ((killsAlone view.base label.1 op ∧
      requestsRunning view.base op) ∧ (_ → op.finishes = false)))
  | .inr op => inferInstanceAs (Decidable (permitsHistory config view op))

def careful (config : Config) : HistoryGuard where
  op := permits config
  unwind view label := undisturbed.unwind view.base label.1
  arrive _ _ := True
  restart := True

instance (config : Config) : (careful config).Checkable where
  op view label op input := inferInstanceAs
    (Decidable (permits config view label op input))
  unwind view label := inferInstanceAs (Decidable
    (∀ claim ∈ label.1.claim?, view.base.state.database.underway claim.id))

theorem careful_contains (config : Config) (view : HistoryView) :
    (careful config).Contains (quietly (HistoryView.clearing view != 0)) view
    where
  op _ _ _ permitted := permitted
  unwind _ permitted := permitted
  arrive _ _ := trivial
  restart _ := trivial

/-- Nobody works on the deployment, and nobody ever will. -/
structure Dead (view : PanelView) (id : Int) : Prop where
  bound : id < view.state.database.nextId
  row : ∀ row ∈ view.state.database.deployments, row.id = id →
    row.status ≠ .queued
  idle : ∀ role ∈ view.labels, ∀ claim, role.claim? = some claim →
    claim.id ≠ id

variable {row : DeploymentRow} {filter : HistoryFilter}

section Steps

variable {config : Config} {schema : Schema} {guard : PanelGuard}
  {view next : PanelView} {role : Role} {op : Op} {input : Input}
  {answer : op.Answer} {id : Int}

theorem Dead.acts (dead : Dead view id) (ids : Ids view.state.database)
    (acts : Acts config schema view next role op input answer) :
    Dead next id := by
  refine ⟨Int.lt_of_lt_of_le dead.bound (ids.acts acts).2, ?_, ?_⟩
  · intro row member same
    rcases acts.backward member with
      ⟨old, present, sameClaim, unchanged | becomes⟩ | ⟨fresh, phase, _, _, rfl⟩
    · rw [unchanged]
      have sameId := congrArg DeploymentClaim.id sameClaim
      exact dead.row old present (sameId.symm.trans same)
    · exact becomes.ne_queued
    · exact absurd same (Int.ne_of_gt dead.bound)
  · intro member membership claim claimed same
    rcases acts.owner membership claimed with
      ⟨owner, present, owns⟩ | ⟨server, semaphore, row, rfl, claims⟩
    · exact dead.idle owner present claim owns same
    · exact dead.row row claims.member same claims.queued

theorem Dead.still (dead : Dead view id) (still : Still view next) :
    Dead next id := by
  refine ⟨?_, ?_, ?_⟩
  · rw [still.nextId]
    exact dead.bound
  · rw [still.rows]
    exact dead.row
  · intro member membership claim claimed
    obtain ⟨owner, present, owns⟩ :=
      claim_kept still.claims membership claimed
    exact dead.idle owner present claim owns

theorem Dead.step (dead : Dead view id) (ids : Ids view.state.database)
    (step : View.Step (machine config schema) guard view next) :
    Dead next id := by
  rcases acts_or_still step with ⟨role, op, input, answer, acts, _⟩ | still
  · exact dead.acts ids acts
  · exact dead.still still

theorem historical_iff :
    historical config view row = true ↔
      row.status.terminal = true ∧ row.ownLog config = true ∧
        ∀ role ∈ view.labels, ∀ claim, role.claim? = some claim →
          claim.id = row.id → role.unsettled.isSome = true := by
  rw [historical, Bool.and_eq_true, Bool.and_eq_true, and_assoc,
    List.all_eq_true]
  refine and_congr_right fun _ => and_congr_right fun _ => ?_
  constructor
  · intro settled role membership claim claimed same
    have either := settled role membership
    simpa [claimed, same] using either
  · intro settled role membership
    cases claimed : role.claim? with
    | none => rfl
    | some claim =>
      by_cases same : claim.id = row.id
      · simp [settled role membership claim claimed same]
      · simp [same]

/-- A historical row is dead. -/
theorem Dead.of_historical (orderly : Orderly view)
    (member : row ∈ view.state.database.deployments)
    (past : historical config view row = true) : Dead view row.id := by
  obtain ⟨terminal, _, settled⟩ := historical_iff.mp past
  refine ⟨orderly.owned.ids.bound row member, ?_, ?_⟩
  · intro other present same queued
    rw [orderly.owned.ids.eq present member same] at queued
    rw [queued] at terminal
    cases terminal
  · intro role membership claim claimed same
    obtain ⟨pledge, unsettled⟩ := Option.isSome_iff_exists.mp
      (settled role membership claim claimed same)
    have promised := Role.unsettled_claim unsettled
    rw [claimed] at promised
    cases promised
    have underway := orderly.pledged role membership claim unsettled row member
      same.symm
    revert terminal underway
    cases row.status <;> simp [DeploymentStatus.terminal,
      DeploymentStatus.underway]

/-- No path of a live deployment's log. -/
def Harmless (config : Config) (view : PanelView) (path : String) : Prop :=
  ∀ id, path = config.deploymentLogFile id → Dead view id

theorem deploymentLogFile_toList (config : Config) (id : Int) :
    (config.deploymentLogFile id).toList =
      (config.deploymentLogs ++ "/").toList ++ ((toString id).toList ++
        ".log".toList) := by
  simp only [Config.deploymentLogFile, String.toList_append, List.append_assoc]

theorem deploymentLogFile_injective {first second : Int}
    (same : config.deploymentLogFile first = config.deploymentLogFile second) :
    first = second := by
  have letters := congrArg String.toList same
  rw [deploymentLogFile_toList, deploymentLogFile_toList] at letters
  have numbers := List.append_cancel_right (List.append_cancel_left letters)
  exact Text.toString_int_injective numbers

theorem harmless_ownLog (dead : Dead view row.id)
    (own : row.ownLog config = true) : Harmless config view row.logPath := by
  intro id same
  rcases (Bool.or_eq_true _ _).mp own with log | foreign
  · rw [beq_iff_eq.mp log] at same
    rw [← deploymentLogFile_injective same]
    exact dead
  · rw [same, deploymentLogFile_toList] at foreign
    have inside := List.isPrefixOf_iff_prefix.mpr (List.prefix_append
      (config.deploymentLogs ++ "/").toList
      ((toString id).toList ++ ".log".toList))
    rw [inside] at foreign
    cases foreign

theorem HistoryFilter.finished_congr {row other : DeploymentRow}
    (filter : HistoryFilter) (target : row.target = other.target)
    (server : row.serverId = other.serverId)
    (status : row.status = other.status ∨
      row.status ∈ [.queued, .running] ∧ other.status ∈ [.queued, .running]) :
    filter.finished row = filter.finished other := by
  unfold HistoryFilter.finished
  rw [target, server]
  rcases status with same | ⟨unfinished, alike⟩
  · rw [same]
  · have excluded : ∀ status ∈ [DeploymentStatus.queued, .running],
        (status != .queued && status != .running) = false := by
      decide
    rw [excluded _ unfinished, excluded _ alike]

theorem Becomes.started {status : DeploymentStatus}
    (becomes : Becomes role op row status) (leaves : op.finishes = false) :
    row.status = .queued ∧ status = .running := by
  cases becomes with
  | claimed own queued => exact ⟨queued, rfl⟩
  | _ => cases leaves

theorem finished_rewrite {query : Query} {before after : Database}
    {answer : query.Answer} (filter : HistoryFilter)
    (allowed : harmless (.sql query) = true ∨ Move role (.sql query))
    (succeeded : before.execute schema query = .ok (after, answer))
    (leaves : (Op.sql query).finishes = false) :
    (after.finished filter).map DeploymentRow.id =
      (before.finished filter).map DeploymentRow.id := by
  have rewrites := rewrites_execute allowed succeeded
  have unfinished : (query.inserted before).filter filter.finished = [] := by
    rcases rewrites.new with none | ⟨fresh, phase, _, _, one⟩
    · rw [none]
      rfl
    · rw [one]
      rfl
  have kept : ∀ row ∈ before.deployments,
      filter.finished (query.rewrite row) = filter.finished row := by
    intro row member
    have place := rewrite_place query row
    refine filter.finished_congr
      (congrArg DeploymentClaim.target (rewrites.claim row member))
      (serverId_of_place place) ?_
    refine (rewrites.status row member).imp_right fun becomes => ?_
    obtain ⟨queued, running⟩ := becomes.started leaves
    rw [queued, running]
    simp
  unfold Database.finished
  have same : before.deployments.filter (filter.finished ∘ query.rewrite) =
      before.deployments.filter filter.finished :=
    List.filter_congr kept
  rw [rewrites.rows, List.filter_append, unfinished, List.append_nil,
    List.filter_map, List.map_map, same]
  apply List.map_congr_left
  intro row member
  exact congrArg DeploymentClaim.id
    (rewrites.claim row (List.mem_of_mem_filter member))

/-- While a call is between its statements, the rows it takes for finished are
the same. -/
theorem finished_step (filter : HistoryFilter)
    (step : View.Step (machine config schema) (quietly true) view next) :
    (next.state.database.finished filter).map DeploymentRow.id =
      (view.state.database.finished filter).map DeploymentRow.id := by
  rcases acts_or_still step with
    ⟨role, op, input, answer, acts, _, leaves⟩ | still
  · have unchanged : next.state = view.state → _ = _ :=
      fun same => congrArg (fun state : Panel =>
        (state.database.finished filter).map DeploymentRow.id) same
    cases op with
    | sql query =>
      cases answer with
      | error failure => exact unchanged acts.failed
      | ok value =>
        exact finished_rewrite filter acts.allowed acts.executed.1 (leaves rfl)
    | _ =>
      have state := acts.state
      rw [← state]
      rfl
  · unfold Database.finished
    rw [still.rows]

theorem blind_owns (id : Int) : Blind (Role.owns id) :=
  ⟨fun _ => rfl, fun _ => rfl, fun role aside => by
    rw [Role.owns, blind_claim.aside role aside]
    rfl⟩

/-- A step that removes rows on which nobody works, and after which the tasks
of the queue are those that were there. -/
structure Beside (view next : PanelView) : Prop where
  memory : next.state.memory = view.state.memory
  nextId : next.state.database.nextId = view.state.database.nextId
  rows : next.state.database.deployments.Sublist
    view.state.database.deployments
  labels : ∀ role ∈ next.labels, role ∈ view.labels ∨ role.aside = true
  counts : ∀ kind : Role → Bool,
    (∀ role, role.aside = true → kind role = false) →
    (∀ role, ended role = true → kind role = false) →
      next.labels.countP kind = view.labels.countP kind
  removed : ∀ row ∈ view.state.database.deployments,
    row ∈ next.state.database.deployments ∨ Dead view row.id

namespace Beside

section

variable (beside : Beside view next)

include beside

theorem claim (member : role ∈ next.labels)
    {claim : DeploymentClaim}
    (claimed : role.claim? = some claim) : role ∈ view.labels := by
  rcases beside.labels role member with old | aside
  · exact old
  · rw [blind_claim.aside role aside] at claimed
    cases claimed

theorem dead (dead : Dead view id) :
    Dead next id where
  bound := by
    rw [beside.nextId]
    exact dead.bound
  row row member := dead.row row (beside.rows.subset member)
  idle role member claim claimed :=
    dead.idle role (beside.claim member claimed) claim claimed

theorem blind {kind : Role → Bool} (blind : Blind kind)
    (bystander : kind .bystander = false)
    (gone : ∀ role, ended role = true → kind role = false) :
    next.labels.countP kind = view.labels.countP kind :=
  beside.counts kind (fun role aside => by rw [blind.aside role aside, bystander])
    gone

theorem orderly (orderly : Orderly view) :
    Orderly next where
  control := by
    have recoverers := beside.blind blind_recovering rfl
      fun role hasEnded => (ended_cases hasEnded).1
    have dispatchers := beside.blind blind_dispatching rfl
      fun role hasEnded => (ended_cases hasEnded).2.1
    have workers := beside.blind blind_live rfl
      fun role hasEnded => by simp [Role.live, (ended_cases hasEnded).2.2.1]
    rw [beside.memory]
    exact orderly.control.of_counts rfl (by omega) (by omega) (by omega)
  owned :=
    { ids :=
        { unique := orderly.owned.ids.unique.sublist
            (beside.rows.map DeploymentRow.id)
          bound := by
            intro row member
            rw [beside.nextId]
            exact orderly.owned.ids.bound row (beside.rows.subset member) }
      row := by
        intro role member claim claimed
        have old := beside.claim member claimed
        obtain ⟨row, present, rfl, notQueued⟩ :=
          orderly.owned.row role old claim claimed
        rcases beside.removed row present with kept | dead
        · exact ⟨row, kept, rfl, notQueued⟩
        · exact absurd rfl (dead.idle role old _ claimed)
      single := by
        intro id
        rw [beside.blind (blind_owns id) rfl fun role hasEnded => by
          rw [Role.owns, (ended_cases hasEnded).2.2.1]
          rfl]
        exact orderly.owned.single id }
  pledged := by
    intro role member claim unsettled row present
    exact orderly.pledged role
      (beside.claim member (Role.unsettled_claim unsettled)) claim unsettled row
      (beside.rows.subset present)

end

theorem of_turns (turns : Turns role role [] view.labels next.labels)
    (memory : next.state.memory = view.state.memory)
    (nextId : next.state.database.nextId = view.state.database.nextId)
    (rows : next.state.database.deployments.Sublist
      view.state.database.deployments)
    (removed : ∀ row ∈ view.state.database.deployments,
      row ∈ next.state.database.deployments ∨ Dead view row.id) :
    Beside view next := by
  refine ⟨memory, nextId, rows, ?_, ?_, removed⟩
  · intro member membership
    rcases turns.mem_alone membership with old | rfl
    · exact .inl old
    · exact .inl turns.label_mem
  · intro kind _ gone
    have counted := turns.countP kind (gone role)
    simp only [List.countP_nil] at counted
    omega

end Beside

end Steps

/-- What is known at the stages of a call. -/
def HistoryStage.Sound (config : Config) (view : PanelView) :
    HistoryStage → Prop
  | .found id logPath => Dead view id ∧ Harmless config view logPath
  | .selected filter logPaths counted =>
    (∀ id ∈ (view.state.database.finished filter).map DeploymentRow.id,
      Dead view id) ∧
    (∀ path ∈ logPaths, Harmless config view path) ∧
    (counted = true →
      logPaths.length = (view.state.database.finished filter).length)
  | .purging logPaths count removed =>
    (∀ path ∈ logPaths, Harmless config view path) ∧ count = removed
  | _ => True

/-- The queue is orderly, and every call knows what it will remove. -/
structure Clears (config : Config) (view : HistoryView) : Prop where
  orderly : Orderly view.base
  stages : ∀ label ∈ view.labels, label.2.Sound config view.base

section Invariant

variable {config : Config} {schema : Schema} {stage : HistoryStage}

/-- The deployments that are over stay so, and a call that is between its
statements keeps its rows. -/
theorem HistoryStage.Sound.moves {view next : PanelView}
    (sound : stage.Sound config view)
    (dead : ∀ id, Dead view id → Dead next id)
    (kept : stage.clearing = true → ∀ filter,
      (next.state.database.finished filter).map DeploymentRow.id =
        (view.state.database.finished filter).map DeploymentRow.id) :
    stage.Sound config next := by
  have harmless : ∀ path, Harmless config view path →
      Harmless config next path :=
    fun path harmless id same => dead id (harmless id same)
  cases stage with
  | found id logPath => exact ⟨dead id sound.1, harmless _ sound.2⟩
  | selected filter logPaths counted =>
    obtain ⟨gone, safe, count⟩ := sound
    have same := kept rfl filter
    refine ⟨?_, fun path listed => harmless path (safe path listed), ?_⟩
    · intro id member
      rw [same] at member
      exact dead id (gone id member)
    · intro isCounted
      have lengths := congrArg List.length same
      rw [List.length_map, List.length_map] at lengths
      rw [lengths]
      exact count isCounted
  | purging =>
    exact ⟨fun path listed => harmless path (sound.1 path listed), sound.2⟩
  | _ => trivial

theorem HistoryStage.Sound.inside {view next : PanelView} {clearing : Bool}
    (sound : stage.Sound config view) (ids : Ids view.state.database)
    (step : View.Step (machine config schema) (quietly clearing) view next)
    (busy : stage.clearing = true → clearing = true) :
    stage.Sound config next := by
  refine sound.moves (fun id dead => dead.step ids step) ?_
  intro selecting filter
  obtain rfl := busy selecting
  exact finished_step filter step

theorem HistoryStage.Sound.beside {view next : PanelView}
    (sound : stage.Sound config view) (beside : Beside view next)
    (busy : stage.clearing = true →
      next.state.database.deployments = view.state.database.deployments) :
    stage.Sound config next := by
  refine sound.moves (fun id dead => beside.dead dead) ?_
  intro selecting filter
  rw [Database.finished, Database.finished, busy selecting]

namespace Clears

variable {view next : HistoryView} {label : Role × HistoryStage}

theorem inside {clearing : Bool} (clears : Clears config view)
    (step : View.Step (machine config schema) (quietly clearing) view.base
      next.base)
    (stages : ∀ member ∈ next.labels, member.2 = .idle ∨
      ∃ old ∈ view.labels, old.2 = member.2)
    (busy : ∀ label ∈ view.labels, label.2.clearing = true →
      clearing = true) :
    Clears config next where
  orderly := clears.orderly.step (step.weaken
    (fun _ _ _ permitted => permitted.1) (fun _ permitted => permitted)
    (fun _ permitted => permitted) fun permitted => permitted)
  stages member membership := by
    rcases stages member membership with idle | ⟨old, present, same⟩
    · rw [idle]
      trivial
    · rw [← same]
      exact (clears.stages old present).inside clears.orderly.owned.ids step
        (busy old present)

/-- A new call. -/
theorem joins (clears : Clears config view) (call : HistoryCall)
    (state : next.state = view.state)
    (labels : next.labels = view.labels ∨
      next.labels = view.labels ++ [(historyServe config call).label]) :
    Clears config next := by
  have base : next.base.state = view.base.state := congrArg Prod.fst state
  have aside : (historyServe config call).label.1.aside = true := by
    cases call <;> rfl
  have fresh : ∀ view, (historyServe config call).label.2.Sound config view := by
    intro view
    cases call <;> trivial
  have roles : next.base.labels = view.base.labels ∨ next.base.labels =
      view.base.labels ++ [(historyServe config call).label.1] := by
    refine labels.imp (congrArg (List.map Prod.fst)) fun joined => ?_
    simp [View.base, joined]
  have beside : Beside view.base next.base := by
    refine ⟨by rw [base], by rw [base], by rw [base], ?_, ?_, ?_⟩
    · intro role member
      rcases roles with same | joined
      · rw [same] at member
        exact .inl member
      · rw [joined] at member
        rcases List.mem_append.mp member with old | new
        · exact .inl old
        · rw [List.mem_singleton.mp new]
          exact .inr aside
    · intro kind unknown _
      rcases roles with same | joined
      · rw [same]
      · rw [joined, List.countP_append]
        simp [unknown _ aside]
    · intro row member
      rw [base]
      exact .inl member
  refine ⟨beside.orderly clears.orderly, ?_⟩
  intro member membership
  have sound : member.2.Sound config view.base := by
    rcases labels with same | joined
    · rw [same] at membership
      exact clears.stages member membership
    · rw [joined] at membership
      exact Relational.forall_mem_insert clears.stages (fresh _) member
        membership
  exact sound.beside beside fun _ => by rw [base]

section

variable (turns : Replaced (historyMachine config schema).ended label
  (label.1, stage) [] view.labels next.labels)

include turns

theorem beside (clears : Clears config view)
    (beside : Beside view.base next.base)
    (reached : stage.Sound config view.base)
    (busy : ∀ member ∈ next.labels, member.2.clearing = true →
      next.base.state.database.deployments =
        view.base.state.database.deployments) :
    Clears config next where
  orderly := beside.orderly clears.orderly
  stages member membership := by
    have sound : member.2.Sound config view.base := by
      rcases turns.mem_alone membership with old | rfl
      · exact clears.stages member old
      · exact reached
    exact sound.beside beside (busy member membership)

theorem turns_base :
    Turns label.1 label.1 [] view.base.labels next.base.labels :=
  @Replaced.map _ _ _ _ _ _ _ (fun role => ended role = true) Prod.fst turns

theorem reads (clears : Clears config view)
    (state : next.state.1 = view.state.1)
    (reached : stage.Sound config view.base) : Clears config next := by
  have base : next.base.state = view.base.state := state
  refine clears.beside turns ?_ reached fun _ _ _ => by rw [base]
  refine .of_turns (turns_base turns) (by rw [base]) (by rw [base]) ?_ ?_
  · rw [base]
  · intro row member
    rw [base]
    exact .inl member

/-- An operation that deletes dead rows while no other call is between its
statements. -/
theorem deletes (clears : Clears config view) (hits : DeploymentRow → Bool)
    (state : next.state.1 = { view.state.1 with
      database := view.state.1.database.deleteWhere hits })
    (dead : ∀ row ∈ view.state.1.database.deployments, hits row = true →
      Dead view.base row.id)
    (reached : stage.Sound config view.base)
    (alone : ∀ member ∈ next.labels, member.2.clearing = false) :
    Clears config next := by
  have base : next.base.state = { view.base.state with
      database := view.base.state.database.deleteWhere hits } := state
  refine clears.beside turns ?_ reached ?_
  · refine .of_turns (turns_base turns) (by rw [base]) (by rw [base]; rfl) ?_ ?_
    · rw [base]
      exact List.filter_sublist
    · intro row member
      rw [base]
      by_cases hit : hits row = true
      · exact .inr (dead row member hit)
      · exact .inl (List.mem_filter.mpr ⟨member, by simpa using hit⟩)
  · intro member membership busy
    rw [alone member membership] at busy
    cases busy

theorem alone
    (selecting : label.2.clearing = true) (moved : stage.clearing = false)
    (permitted : HistoryView.clearing view ≤ 1) {member : Role × HistoryStage}
    (membership : member ∈ next.labels) : member.2.clearing = false := by
  by_contra busy
  rw [Bool.not_eq_false] at busy
  rcases turns.mem_or_two membership (fun label => label.2.clearing) selecting
      busy with rfl | new | two
  · rw [moved] at busy
    cases busy
  · cases new
  · unfold HistoryView.clearing at permitted
    omega

theorem unselected
    (moved : stage.clearing = false)
    (permitted : HistoryView.clearing view = 0)
    {member : Role × HistoryStage} (membership : member ∈ next.labels) :
    member.2.clearing = false := by
  rcases turns.mem_alone membership with old | rfl
  · have none := List.countP_eq_zero.mp permitted member old
    simpa using none
  · exact moved

end

end Clears

theorem Input.statement_ok {α : Type} {input : Input}
    (healthy : ¬ ∃ message, input = .fault message)
    (state : Panel × Files) (database : Database) (answer : α) :
    input.statement state database answer =
      (({ state.1 with database }, state.2), .ok answer) := by
  cases input with
  | fault message => exact absurd ⟨message, rfl⟩ healthy
  | _ => rfl

namespace Clears

variable {view next : HistoryView} {label : Role × HistoryStage}

theorem sound_found (clears : Clears config view) {id : Int}
    (permitted : permitsHistory config view (.getById id)) :
    (HistoryStage.advance config (.asking (.delete id)) (.getById id)
      (.ok (view.state.1.database.deployments.find? fun row =>
        row.id == id))).Sound config view.base := by
  cases found : view.state.1.database.deployments.find? fun row =>
      row.id == id with
  | none => trivial
  | some row =>
    have member := List.mem_of_find?_eq_some found
    have same : row.id = id := by simpa using List.find?_some found
    have past := permitted row member same
    have dead := Dead.of_historical clears.orderly member past
    refine ⟨?_, harmless_ownLog dead (historical_iff.mp past).2.1⟩
    rw [← same]
    exact dead

theorem dead_of_permitted (clears : Clears config view)
    (permitted : ∀ row ∈ view.state.1.database.finished filter,
      historical config view.base row = true)
    (selected : row ∈ view.state.1.database.finished filter) :
    Dead view.base row.id :=
  .of_historical clears.orderly (List.mem_of_mem_filter selected)
    (permitted row selected)

theorem sound_selected (clears : Clears config view) {logPaths : List String}
    {counted : Bool}
    (permitted : ∀ row ∈ view.state.1.database.finished filter,
      historical config view.base row = true)
    (safe : ∀ path ∈ logPaths, Harmless config view.base path)
    (count : counted = true →
      logPaths.length = (view.state.1.database.finished filter).length) :
    (HistoryStage.selected filter logPaths counted).Sound config
      view.base := by
  refine ⟨?_, safe, count⟩
  intro id member
  obtain ⟨row, selected, rfl⟩ := List.mem_map.mp member
  exact clears.dead_of_permitted permitted selected

theorem dead_of_selected {logPaths : List String} {counted : Bool}
    (known : (HistoryStage.selected filter logPaths counted).Sound config
      view.base) (member : row ∈ view.state.1.database.deployments)
    (hit : filter.finished row = true) : Dead view.base row.id :=
  known.1 row.id (List.mem_map_of_mem (List.mem_filter.mpr ⟨member, hit⟩))

theorem performs {op : HistoryOp} {input : Input} (clears : Clears config view)
    (allowed : label.2.Allows op)
    (permitted : permitsHistory config view op)
    (state : next.state = (historyExec op input view.state).1)
    (turns : Replaced (historyMachine config schema).ended label
      (label.1, label.2.advance config op (historyExec op input view.state).2)
      [] view.labels next.labels) :
    Clears config next := by
  obtain ⟨role, stage⟩ := label
  have known := clears.stages _ turns.label_mem
  by_cases fault : ∃ message, input = .fault message
  · obtain ⟨message, rfl⟩ := fault
    cases allowed with
    | pathExists | removeFile | returns =>
      exact clears.reads turns (by rw [state]; rfl) known
    | _ => exact clears.reads turns (by rw [state]; rfl) trivial
  · cases allowed with
      try rw [historyExec, Input.statement_ok fault] at state turns
    | getById id =>
      exact clears.reads turns (by rw [state]) (clears.sound_found permitted)
    | select filter =>
      refine clears.reads turns (by rw [state])
        (clears.sound_selected permitted ?_ fun _ => List.length_map _)
      intro path listed
      obtain ⟨row, selected, rfl⟩ := List.mem_map.mp listed
      exact harmless_ownLog (clears.dead_of_permitted permitted selected)
        (historical_iff.mp (permitted row selected)).2.1
    | list filter =>
      refine clears.reads turns (by rw [state])
        (clears.sound_selected permitted ?_ nofun)
      intro path listed
      obtain ⟨id, sorted, rfl⟩ := List.mem_map.mp listed
      rw [List.mem_insertionSort] at sorted
      obtain ⟨row, selected, rfl⟩ := List.mem_map.mp sorted
      intro other same
      rw [← deploymentLogFile_injective same]
      exact clears.dead_of_permitted permitted selected
    | delete id logPath =>
      refine clears.deletes turns (fun row => row.id == id) (by rw [state])
        ?_ ?_ fun member membership =>
          unselected turns rfl permitted membership
      · intro row _ hit
        rw [beq_iff_eq.mp hit]
        exact known.1
      · refine ⟨?_, rfl⟩
        intro path listed
        rw [List.mem_singleton.mp listed]
        exact known.2
    | deleteFiltered filter logPaths =>
      exact clears.deletes turns filter.finished (by rw [state])
        (fun row member hit => dead_of_selected known member hit)
        ⟨known.2.1, known.2.2 rfl⟩
        fun member membership => alone turns rfl rfl permitted membership
    | deleteFinished filter logPaths =>
      exact clears.deletes turns filter.finished (by rw [state])
        (fun row member hit => dead_of_selected known member hit)
        ⟨known.2.1, rfl⟩
        fun member membership => alone turns rfl rfl permitted membership
    | pathExists | removeFile | returns =>
      exact clears.reads turns (by rw [state]; rfl) known

theorem step (clears : Clears config view)
    (step : View.Step (historyMachine config schema) (careful config) view
      next) : Clears config next := by
  cases step.extended (careful_contains config view) with
  | inside step stages =>
    refine clears.inside step stages fun label member busy => ?_
    have positive : 0 < HistoryView.clearing view :=
      List.countP_pos_iff.mpr ⟨label, member, busy⟩
    exact bne_iff_ne.mpr (Nat.ne_of_gt positive)
  | performs label op input allowed permitted state turns =>
    exact clears.performs allowed permitted state turns
  | joins call state labels => exact clears.joins call state labels

end Clears

end Invariant

/-- The panel before anything has happened, with its log files. -/
def bootHistory (database : Database) (files : Files) : HistoryPool :=
  ⟨(⟨database, Memory.fresh⟩, files), [], []⟩

/-- The operation of the history that a task performs next. -/
def nextOp (task : Task (Op ⊕ HistoryOp) (Both Op.Answer HistoryOp.Answer)
    (Role × HistoryStage)) : Option HistoryOp :=
  match task.code with
  | .call (.inr op) _ => some op
  | _ => none

/-- The number of rows that the statement of a call has removed. -/
def HistoryStage.removed : HistoryStage → Option Nat
  | .purging _ _ removed => some removed
  | _ => none

/-- The row of every live deployment is there, no task is about to remove the
log of one, and a call is about to answer with the number of rows it has removed
whenever it answers with a count. -/
structure ClearsSafely (config : Config) (pool : HistoryPool) : Prop where
  rows : ∀ task ∈ pool.tasks, ∀ claim, task.label.1.claim? = some claim →
    ∃ row ∈ pool.state.1.database.deployments, row.id = claim.id
  logs : ∀ task ∈ pool.tasks, ∀ path,
    nextOp task = some (.removeFile path) →
    ∀ worker ∈ pool.tasks, ∀ claim, worker.label.1.claim? = some claim →
      path ≠ config.deploymentLogFile claim.id
  counts : ∀ task ∈ pool.tasks, ∀ count,
    nextOp task = some (.returns count) →
      task.label.2.removed = some count

/-- In every careful run the history is cleared safely. -/
theorem careful_clearing {config : Config} {schema : Schema}
    {database : Database} {files : Files}
    {events : List (Event Input (Call ⊕ HistoryCall) Signal)}
    {pool : HistoryPool} (ids : Ids database)
    (run : Pool.Run (historyMachine config schema) (careful config)
      (bootHistory database files) events pool) :
    ClearsSafely config pool := by
  obtain ⟨reached, conform⟩ := run.reaches (historyMachine_sound config schema)
    (by simp [bootHistory])
  have clears : Clears config pool.view := by
    refine reached.invariant (Clears config) ?_ fun _ _ clears step =>
      clears.step step
    refine ⟨⟨control_empty _, .of_ids ids, ?_⟩, ?_⟩
    · simp [Pledged, bootHistory, Pool.view, View.base]
    · simp [bootHistory, Pool.view]
  have role : ∀ task ∈ pool.tasks, task.label.1 ∈ pool.view.base.labels :=
    fun task member => List.mem_map_of_mem (List.mem_map_of_mem member)
  have performs : ∀ task ∈ pool.tasks, ∀ op, nextOp task = some op →
      task.label.2.Allows op ∧ task.label.2.Sound config pool.view.base := by
    rintro ⟨⟨taskRole, stage⟩, code⟩ member op next
    refine ⟨?_, clears.stages (taskRole, stage) (List.mem_map_of_mem member)⟩
    cases code with
    | done value => cases next
    | call first rest =>
      obtain first | first := first
      · cases next
      · cases next
        exact (conform _ member).1
  constructor
  · intro task member claim claimed
    obtain ⟨row, present, rfl, _⟩ :=
      clears.orderly.owned.row _ (role task member) claim claimed
    exact ⟨row, present, rfl⟩
  · intro task member path next worker present claim claimed same
    obtain ⟨allowed, known⟩ := performs task member _ next
    obtain ⟨⟨taskRole, stage⟩, code⟩ := task
    cases allowed with
    | removeFile count removed listed =>
      have dead := known.1 path listed claim.id same
      exact dead.idle _ (role worker present) claim claimed rfl
  · intro task member count next
    obtain ⟨allowed, known⟩ := performs task member _ next
    obtain ⟨⟨taskRole, stage⟩, code⟩ := task
    cases allowed with
    | returns => exact congrArg some known.2.symm

/-- A deployment of a database is claimed by the dispatcher. -/
def databaseClaimed : List (Event Input (Call ⊕ HistoryCall) Signal) :=
  startUp.map Event.embed ++ [.arrive (.inl (.runDatabase .postgres 1 .deploy))] ++
    (runs 1 12 ++ runs 0 8).map Event.embed

/-- A task of the history takes a number of steps in which nothing fails. -/
def historyRuns (index steps : Nat) :
    List (Event Input (Call ⊕ HistoryCall) Signal) :=
  (runs index steps).map Event.embed

/-- The panel with one database, and a log file for every deployment. -/
def loggedDatabase : HistoryPool :=
  bootHistory (single (.database .postgres 1) none) fun _ => true

/-- The worker ends, the history is cleared, and the call is about to answer
that one row is gone. -/
theorem careful_clearing_one :
    ∃ pool, Pool.Run (historyMachine twoWorkers .permissive)
        (careful twoWorkers) loggedDatabase
        (databaseClaimed ++ historyRuns 1 17 ++
          [.arrive (.inr (.clearAll ⟨none, none, none, none⟩))] ++
          historyRuns 2 4) pool ∧
      (∃ task ∈ pool.tasks, nextOp task = some (.returns 1)) ∧
      ClearsSafely twoWorkers pool := by
  refine Pool.Run.exists_checked (fun pool =>
    ∃ task ∈ pool.tasks, nextOp task = some (.returns 1))
    (by decide +kernel) ?_
  intro pool run answers
  exact ⟨answers, careful_clearing (ids_single _ _) run⟩

/-- A running deployment is deleted: its row is gone and its log is about to be
removed, and its worker is live. -/
theorem delete_under_live_worker :
    ∃ pool, Pool.Run (historyMachine twoWorkers .permissive) .free
        loggedDatabase
        (databaseClaimed ++ [.arrive (.inr (.delete 1))] ++ historyRuns 2 7)
        pool ∧
      pool.state.1.database.deployments = [] ∧
      (∃ task ∈ pool.tasks, nextOp task =
        some (.removeFile (twoWorkers.deploymentLogFile 1))) ∧
      ∃ task ∈ pool.tasks, ∃ claim, task.label.1.claim? = some claim ∧
        claim.id = 1 := by
  refine Pool.Run.exists_checked (fun pool =>
    pool.state.1.database.deployments = [] ∧
      (∃ task ∈ pool.tasks, nextOp task =
        some (.removeFile (twoWorkers.deploymentLogFile 1))) ∧
      ∃ task ∈ pool.tasks, task.label.1.owns 1 = true) (by decide +kernel) ?_
  rintro pool run ⟨empty, removing, worker, present, owns⟩
  exact ⟨empty, removing, worker, present, Role.owns_iff.mp owns⟩

end OpenOxide.Deployment
