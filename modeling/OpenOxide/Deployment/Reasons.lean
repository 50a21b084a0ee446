import OpenOxide.Concurrency.Code
import OpenOxide.Deployment.Ownership

/-!
# Why a deployment is recorded as cancelled

A worker that is not alarmed records `DONE` or `ERROR`.  When the texts handed
to a worker mention a cancellation only after one was asked for (`candid`), so
do the records.
-/

namespace OpenOxide.Deployment

open Concurrency

def Input.alarms : Input → Bool
  | .fault message => isCancelledError message
  | _ => false

theorem execute_harmless {schema : Schema} {database : Database}
    {query : Query} (quiet : harmless (.sql query) = true) :
    ∃ result, database.execute schema query = .ok result := by
  cases query with
  | update statement =>
    have neutral : statement.status = none := by
      simpa [harmless] using quiet
    simp [Database.execute, Database.updateDeployments, neutral]
  | read | createServerManagement =>
    exact ⟨_, rfl⟩
  | _ => cases quiet

variable {op : Op}

/-- An alarming answer to a harmless operation is the work of the outside. -/
theorem alarms_exec {config : Config} {schema : Schema}
    {input : Input} {panel : Panel} (quiet : harmless op = true)
    (alarmed : op.alarms (Panel.exec config schema op input panel).2 = true) :
    input.alarms = true := by
  cases op with
  | sql query =>
    obtain ⟨result, succeeds⟩ :=
      @execute_harmless schema panel.database query quiet
    cases input with
    | fault message =>
      change isCancelledError
        ("encountered unexpected or invalid data: " ++ message) = true
        at alarmed
      rwa [isCancelledError_append (by decide)] at alarmed
    | _ =>
      simp [Panel.exec, Database.attempt, succeeds, Op.alarms] at alarmed
  | outside request =>
    cases request <;> cases input <;>
      first | exact alarmed | cases alarmed
  | memory op => cases op <;> cases alarmed
  | spawn | executed | cancelReturns =>
    cases alarmed

section Worker

variable {α β : Type} {claim : DeploymentClaim} {program : Action α}

theorem insight_decided
    (neutral : program.Only fun op => ∀ query, op = .sql query → query.neutral)
    (alarmed : Bool) :
    (insight claim).Follows (.decided alarmed) program fun _ reached =>
      reached = .decided alarmed :=
  (insight claim).follows_only neutral
    (fun _ calm query isSql => Or.inl (calm query isSql)) fun _ _ _ => rfl

/-- The transaction and the rest of `process`, once the outcome is known. -/
theorem insight_settle {error : Option String} {alarmed : Bool}
    (explained : ∀ text, error = some text →
      alarmed = true ∨ isCancelledError text = false) :
    (insight claim).Follows (.decided alarmed) (do
      ignore (sql (.finalizeWithResource (claim.finalization error)))
      Program.forEach (fun key => memory (.removeState key))
        claim.target.stateKeys
      notifyDeploymentFinished (finalStatus error)) fun _ reached =>
        reached = .decided alarmed := by
  have recorded : alarmed = true ∨
      finalStatus error = plainStatus error := by
    cases alarmed with
    | true => exact Or.inl rfl
    | false =>
      right
      cases error with
      | none => rfl
      | some text =>
        have plain := (explained text rfl).resolve_left Bool.false_ne_true
        simp [finalStatus, plainStatus, plain]
  refine ⟨?_, fun _ => ?_⟩
  · intro query isSql
    cases isSql
    exact Or.inr ⟨_, rfl, rfl, recorded⟩
  · exact insight_decided ((neutral_of_quiet (Program.Only.forEach
      (fun _ => quiet_memory rfl) _)).bind fun _ =>
        neutral_of_quiet (quiet_notifyDeploymentFinished _)) alarmed

theorem insight_process (claim : DeploymentClaim) :
    (insight claim).Follows (.building false) (process claim)
      fun _ reached => ∃ alarmed, reached = .decided alarmed := by
  refine ((insight claim).follows_bind).mpr
    ((explains_executeOperation claim false).weaken ?_)
  rintro outcome reached ⟨alarmed, rfl, explained⟩
  cases outcome with
  | ok value =>
    refine ⟨Or.inr ⟨_, _, rfl⟩, fun _ => ⟨fun _ => nofun, fun found => ?_⟩⟩
    cases found with
    | error message => exact ⟨alarmed, rfl⟩
    | ok value =>
      have settles := @insight_settle claim none alarmed (by simp)
      exact settles.weaken fun _ _ same => ⟨alarmed, same⟩
  | error message =>
    refine ⟨Or.inr ⟨_, _, rfl⟩, fun _ => ⟨fun _ => nofun, fun found => ?_⟩⟩
    cases found with
    | error message => exact ⟨alarmed, rfl⟩
    | ok value =>
      refine (insight_settle ?_).weaken fun _ _ same => ⟨alarmed, same⟩
      intro text failed
      cases failed
      rw [isCancelledError_append (by decide +kernel)]
      exact explained message rfl

theorem neutral_release (semaphore : Nat) :
    (release semaphore).Only fun op => ∀ query, op = .sql query →
      query.neutral := by
  refine (Program.only_perform ?_).bind fun _ => Program.only_perform ?_
  · intro query impossible
    cases impossible
  · intro query impossible
    cases impossible

theorem insight_worker (claim : DeploymentClaim) (semaphore : Nat) :
    (insight claim).Follows (.building false) (worker claim semaphore)
      fun _ _ => True := by
  refine ((insight claim).follows_bind).mpr ((insight_process claim).weaken ?_)
  rintro _ reached ⟨alarmed, rfl⟩
  exact (insight_decided (neutral_release semaphore) alarmed).weaken
    fun _ _ _ => trivial

theorem insight_workerPanicked (claim : DeploymentClaim) (semaphore : Nat) :
    (insight claim).Follows (.decided false) (workerPanicked claim semaphore)
      fun _ _ => True := by
  have released : (insight claim).Follows (.decided false)
      (release semaphore) fun _ _ => True :=
    (insight_decided (neutral_release semaphore) false).weaken
      fun _ _ _ => trivial
  refine ⟨fun _ => nofun, fun found => ?_⟩
  cases found with
  | error message => exact released
  | ok value =>
    refine ⟨?_, fun _ => released⟩
    intro query isSql
    cases isSql
    exact Or.inr ⟨_, rfl, rfl, Or.inr rfl⟩

end Worker

/-- The operation is part of a stop of the claimed row's resource, or of the
cancellation of the row. -/
def requests (claim : DeploymentClaim) (entry : PanelEntry) : Bool :=
  match entry.label, entry.op with
  | .service key .stopping, _ => claim.target.names key
  | .service key .asking, .sql (.updateStatus _ status) =>
    status != .starting && claim.target.names key
  | .canceller id _, _ => id == claim.id
  | _, _ => false

/-- The operation claims the row for a worker. -/
def claimsRow (id : Int) : PanelEntry → Bool
  | ⟨_, .sql (.claimQueuedDeployment _), answer⟩ =>
    match (answer : Except SqlError (Option DeploymentClaim)) with
    | .ok (some claim) => claim.id == id
    | _ => false
  | _ => false

/-- A stop or a cancellation has been asked for since the row was claimed. -/
def RequestedWhile (claim : DeploymentClaim) : List PanelEntry → Prop
  | [] => False
  | entry :: older =>
    (requests claim entry = true ∧ older.any (claimsRow claim.id) = true) ∨
      RequestedWhile claim older

instance decidableRequestedWhile (claim : DeploymentClaim) :
    (history : List PanelEntry) → Decidable (RequestedWhile claim history)
  | [] => .isFalse id
  | _ :: older =>
    have := decidableRequestedWhile claim older
    inferInstanceAs (Decidable (_ ∨ _))

/-- The claim a task is building. -/
def Role.building : Role → Option DeploymentClaim
  | .worker work .running => some work.claim
  | _ => none

/-- An outside error that a building worker is handed reads like a cancellation
only when one has been asked for. -/
def candid : PanelGuard where
  op view role _ input := ∀ claim ∈ role.building, input.alarms = true →
    RequestedWhile claim view.history
  unwind _ _ := True
  arrive _ _ := True
  restart := True

instance : candid.Checkable where
  op view role _ input := inferInstanceAs (Decidable
    (∀ claim ∈ role.building, input.alarms = true →
      RequestedWhile claim view.history))

/-- A worker touches no status except in the transaction that ends its own
deployment.  There it writes `CANCELLED` only after a request, and `ERROR` for
every other failure. -/
def FairlyRecorded (older : List PanelEntry) (entry : PanelEntry) : Prop :=
  ∀ work phase, entry.label = .worker work phase →
    ∀ query, entry.op = .sql query → query.neutral ∨
      ∃ final, query = .finalizeWithResource final ∧
        final.id = work.claim.id ∧
        (final.deploymentStatus = .cancelled →
          RequestedWhile work.claim older) ∧
        (final.errorMessage.isSome = true →
          ¬ RequestedWhile work.claim older →
            final.deploymentStatus = .error)

def Fair : List PanelEntry → Prop
  | [] => True
  | entry :: older => FairlyRecorded older entry ∧ Fair older

/-- What is known of a worker in flight: what it has been told, and that an
alarm had its request. -/
def Informed (_ : Panel) (history : List PanelEntry) (task : PanelTask) :
    Prop :=
  ∀ work phase, task.label = .worker work phase →
    ∃ seen, (insight work.claim).Follows seen task.code (fun _ _ => True) ∧
      (seen.alarmed = true → RequestedWhile work.claim history) ∧
      ∀ alarmed, seen = .building alarmed → phase = .running

theorem advance_worker {role : Role} {answer : op.Answer}
    {work : Worker} {phase : WorkerPhase}
    (reached : advance role op answer = .worker work phase) :
    ∃ before, role = .worker work before := by
  unfold advance at reached
  repeat' split at reached
  all_goals
    first
      | cases reached; exact ⟨_, rfl⟩
      | cases reached

theorem informed_acts {config : Config} {schema : Schema} {pool : PanelPool}
    {role : Role} {rest : op.Answer → Action Unit} {input : Input}
    (informed : Informed pool.state pool.history ⟨role, .call op rest⟩)
    (permitted : candid.op pool.view role op input) :
    Informed (Panel.exec config schema op input pool.state).1
      (⟨role, op, (Panel.exec config schema op input pool.state).2⟩ ::
        pool.history)
      ⟨advance role op (Panel.exec config schema op input pool.state).2,
        rest (Panel.exec config schema op input pool.state).2⟩ := by
  intro work phase reached
  obtain ⟨before, rfl⟩ := advance_worker reached
  obtain ⟨seen, follows, known, running⟩ := informed work before rfl
  generalize result : (Panel.exec config schema op input pool.state).2 =
    answer at reached ⊢
  refine ⟨_, follows.2 answer, ?_, ?_⟩
  · intro alarmed
    cases seen with
    | decided raised => exact Or.inr (known alarmed)
    | building raised =>
      obtain rfl := running raised rfl
      rcases follows.1 with quiet | ⟨id, error, rfl⟩
      · cases raised with
        | true => exact Or.inr (known rfl)
        | false =>
          have alarming : op.alarms answer = true := by
            cases op with
            | executed id error => cases quiet
            | _ => simpa [insight, Insight.alarmed] using alarmed
          rw [← result] at alarming
          exact Or.inr (permitted work.claim rfl
            (alarms_exec quiet alarming))
      · exact Or.inr (known alarmed)
  · intro alarmed still
    cases seen with
    | decided raised => cases still
    | building raised =>
      obtain rfl := running raised rfl
      rcases follows.1 with quiet | ⟨id, error, rfl⟩
      · cases (advance_of_calm rfl op answer quiet).symm.trans reached
        rfl
      · cases still

theorem fairly_recorded {pool : PanelPool} {role : Role}
    {rest : op.Answer → Action Unit} (answer : op.Answer)
    (informed : Informed pool.state pool.history ⟨role, .call op rest⟩) :
    FairlyRecorded pool.history ⟨role, op, answer⟩ := by
  intro work phase labelled query isSql
  obtain ⟨seen, follows, known, _⟩ := informed work phase labelled
  subst isSql
  cases seen with
  | building raised =>
    rcases follows.1 with quiet | ⟨id, error, impossible⟩
    · exact Or.inl (neutral_of_harmless quiet)
    · cases impossible
  | decided raised =>
    rcases follows.1 query rfl with neutral | ⟨final, rfl, own, recorded⟩
    · exact Or.inl neutral
    · refine Or.inr ⟨final, rfl, own, ?_, ?_⟩
      · intro cancelled
        rcases recorded with alarmed | plain
        · exact known alarmed
        · rw [cancelled] at plain
          cases error : final.errorMessage <;> rw [error] at plain <;>
            cases plain
      · intro failed unasked
        rcases recorded with alarmed | plain
        · exact absurd (known alarmed) unasked
        · obtain ⟨text, error⟩ := Option.isSome_iff_exists.mp failed
          rw [plain, error]
          rfl

theorem informed_invariant (config : Config) (schema : Schema) :
    TaskInvariant (machine config schema) candid Informed Fair where
  acts pool label op rest input informed permitted :=
    informed_acts informed permitted
  waits pool label op rest input task _ informed := by
    intro work phase labelled
    obtain ⟨seen, follows, known, running⟩ := informed work phase labelled
    exact ⟨seen, follows, fun alarmed => Or.inr (known alarmed), running⟩
  records pool label op rest input informed fair :=
    ⟨fairly_recorded _ informed, fair⟩
  children op task created panel history := by
    cases op with
    | spawn child =>
      obtain rfl := List.mem_singleton.mp created
      intro work phase labelled
      cases child with
      | worker claim server semaphore =>
        cases labelled
        exact ⟨.building false, insight_worker claim semaphore, nofun,
          fun _ _ => rfl⟩
      | _ => cases labelled
    | _ => cases created
  serve call panel history := by
    intro work phase labelled
    cases call <;> cases labelled
  unwind panel history task handler informed handled := by
    intro work phase labelled
    unfold machine unwind at handled
    dsimp only at handled
    split at handled
    all_goals
      first
        | cases handled
          cases labelled
          refine ⟨.decided false, insight_workerPanicked _ _, ?_, ?_⟩
          · intro impossible
            cases impossible
          · intro _ impossible
            cases impossible
        | cases handled
  signal _ _ _ _ informed := informed

/-- In every candid run, each worker records `CANCELLED` only for a deployment
whose stop or cancellation was asked for while it was running, and `ERROR` for
every other failure. -/
theorem cancelled_on_request {config : Config} {schema : Schema}
    {database : Database} {events : List (Event Input Call Signal)}
    {pool : PanelPool}
    (run : Pool.Run (machine config schema) candid (boot database) events
      pool) :
    Fair pool.history :=
  (run.tasks_good (informed_invariant config schema)
    ⟨by simp [boot], trivial⟩).2

/-- A database is deployed, and the last stretch of its build fails with a
text. -/
def failingBuild (message : String) : List (Event Input Call Signal) :=
  startUp ++ [.arrive (.runDatabase .postgres 1 .deploy)] ++ runs 1 12 ++
    runs 0 8 ++ runs 1 8 ++ [.run 1 (.fault message)] ++ runs 1 3

/-- The row has a status, and nobody has asked for its cancellation. -/
def unaskedWith (status : DeploymentStatus) (pool : PanelPool) : Bool :=
  pool.state.database.deployments.any fun row =>
    row.status == status &&
      pool.history.all fun entry => !requests row.claim entry

theorem cancelled_on_request_failed :
    ∃ pool, Pool.Run (machine twoWorkers .migrations) candid
        (boot (single (.database .postgres 1) none))
        (failingBuild "no space left on device") pool ∧
      unaskedWith .error pool = true ∧ Fair pool.history := by
  refine Pool.Run.exists_checked (unaskedWith .error · = true)
    (by decide +kernel) ?_
  intro pool run failed
  exact ⟨failed, cancelled_on_request run⟩

/-- The tool of a build reports that it gave up, in words of its own, and the
deployment is recorded as cancelled though nobody asked for it. -/
theorem build_output_cancels :
    ∃ pool row, Pool.Run (machine twoWorkers .migrations) anyStep
        (boot (single (.database .postgres 1) none))
        (failingBuild "pull of layer canceled by the registry") pool ∧
      row ∈ pool.state.database.deployments ∧ row.status = .cancelled ∧
      ∀ entry ∈ pool.history, requests row.claim entry = false := by
  simp only [exists_and_left]
  exact Pool.Run.exists_checked _ (by decide +kernel) fun _ _ unasked => unasked

end OpenOxide.Deployment
