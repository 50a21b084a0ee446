import OpenOxide.Deployment.Quiet
import OpenOxide.Text.Fields

/-!
# Why a build fails

A worker takes the reason of a failure from the text of the error: it records
`CANCELLED` when the text contains the word "cancel", in any case.  None of the
panel's own texts does, not even the one with which a build ends that saw its
token cancelled.  So the word comes from outside: from the output of a build, a
server or the database.

`Insight` is what a worker has been told, and it is alarmed once an answer
carried such a text.  `Explains` follows the code of a build through it, and a
build that is explained is quiet.
-/

namespace OpenOxide.Deployment

open Concurrency

/-- A text that can stand before any other without completing the word. -/
def Bordered (context : String) : Prop :=
  isCancelledError context = false ∧
    (context.toList.getLast?.all fun last => last == ' ') = true

instance (context : String) : Decidable (Bordered context) :=
  inferInstanceAs (Decidable (_ ∧ _))

theorem isCancelledError_iff (text : String) :
    isCancelledError text = true ↔
      "cancel".toList <:+: text.toList.map Char.toLower :=
  decide_eq_true_iff

variable {context : String}

theorem map_toLower_getLast
    (border : (context.toList.getLast?.all fun last => last == ' ') = true)
    {suffix : List Char}
    (ends : suffix <:+ context.toList.map Char.toLower)
    (started : suffix ≠ []) :
    ' ' ∈ suffix := by
  obtain ⟨before, whole⟩ := ends
  have last : (context.toList.map Char.toLower).getLast? =
      suffix.getLast? := by
    rw [← whole, List.getLast?_append_of_ne_nil before started]
  rw [List.getLast?_map] at last
  cases found : context.toList.getLast? with
  | none =>
    rw [found] at last
    exact absurd (List.getLast?_eq_none_iff.mp last.symm) started
  | some char =>
    simp only [found, Option.all_some, beq_iff_eq] at border
    subst border
    rw [found] at last
    exact List.mem_of_getLast? last.symm

theorem isCancelledError_after (plain : isCancelledError context = false)
    (apart : ∀ head, head ≠ [] → head <+: "cancel".toList →
      ¬ head <:+ context.toList.map Char.toLower) (text : String) :
    isCancelledError (context ++ text) = isCancelledError text := by
  rw [Bool.eq_iff_iff, isCancelledError_iff, isCancelledError_iff,
    String.toList_append, List.map_append, List.infix_append_iff]
  constructor
  · rintro (inside | after | ⟨head, tail, split, ends, begins⟩)
    · rw [← isCancelledError_iff, plain] at inside
      cases inside
    · exact after
    · by_cases empty : head = []
      · rw [split, empty]
        exact begins.isInfix
      · exact absurd ends (apart head empty ⟨tail, split.symm⟩)
  · exact fun after => Or.inr (Or.inl after)

theorem isCancelledError_append (bordered : Bordered context) (text : String) :
    isCancelledError (context ++ text) = isCancelledError text := by
  apply isCancelledError_after bordered.1
  intro head started begins ends
  have space := map_toLower_getLast bordered.2 ends started
  exact absurd (begins.subset space) (by decide)

theorem toLower_of_isDigit {char : Char} (digit : char.isDigit = true) :
    char.toLower = char := by
  unfold Char.toLower
  split
  · rename_i upper
    simp only [Char.isDigit, Bool.and_eq_true, decide_eq_true_eq, ge_iff_le,
      UInt32.le_iff_toNat_le] at digit upper
    have nine : ('9' : Char).val.toNat = 57 := rfl
    have capital : ('A' : Char).val.toNat = 65 := rfl
    omega
  · rfl

theorem number_without_letters (number : Int) :
    'c' ∉ (toString number).toList.map Char.toLower := by
  have signless : ∀ char : Char, char.isDigit = true → char.toLower ≠ 'c' := by
    intro char digit lower
    rw [toLower_of_isDigit digit] at lower
    subst lower
    cases digit
  intro member
  obtain ⟨char, written, lower⟩ := List.mem_map.mp member
  rcases Text.digit_of_mem_integer written with digit | sign
  · exact signless char digit lower
  · subst sign
    cases lower

theorem isCancelledError_number (number : Int) (text : String) :
    isCancelledError (toString number ++ text) = isCancelledError text := by
  have absent := number_without_letters number
  apply isCancelledError_after
  · rw [Bool.eq_false_iff, ne_eq, isCancelledError_iff]
    exact fun inside => absent (inside.subset (by decide))
  · rintro (_ | ⟨char, head⟩) started ⟨tail, whole⟩ ends
    · exact started rfl
    · have first : char = 'c' := by simpa using congrArg List.head? whole
      subst first
      exact absent (ends.subset List.mem_cons_self)

/-- A failure whose text reads like a cancellation. -/
def alarmingAnswer : Except String Unit → Bool
  | .error message => isCancelledError message
  | .ok () => false

/-- The answer carries a text that reads like a cancellation. -/
def Op.alarms : (op : Op) → op.Answer → Bool
  | .sql _, answer =>
    match answer with
    | .error error => isCancelledError error.text
    | .ok _ => false
  | .outside .resolve, answer | .outside (.loadSpec _), answer
  | .outside (.remoteExecutor _), answer
  | .outside (.killPidFile _ _), answer | .outside .build, answer =>
    alarmingAnswer answer
  | _, _ => false

/-- What a worker has been told of its build. -/
inductive Insight where
  | building (alarmed : Bool)
  | decided (alarmed : Bool)

def Insight.alarmed : Insight → Bool
  | .building alarmed | .decided alarmed => alarmed

/-- What an outcome is recorded as when nothing reads like a cancellation. -/
def plainStatus : Option String → DeploymentStatus
  | none => .done
  | some _ => .error

/-- While it builds, a worker touches no status.  Then it finalises its own row,
plainly unless it is alarmed. -/
def insight (claim : DeploymentClaim) : Protocol Op Op.Answer Insight where
  allows
    | .building _, op =>
      harmless op = true ∨ ∃ id error, op = .executed id error
    | .decided alarmed, op => ∀ query, op = .sql query → query.neutral ∨
        ∃ final, query = .finalizeWithResource final ∧ final.id = claim.id ∧
          (alarmed = true ∨
            final.deploymentStatus = plainStatus final.errorMessage)
  advance
    | .building alarmed, .executed _ _, _ => .decided alarmed
    | .building alarmed, op, answer =>
      .building (alarmed || op.alarms answer)
    | .decided alarmed, _, _ => .decided alarmed

variable {α β : Type} {claim : DeploymentClaim} {program : Action α}

theorem building_stays {op : Op} (quiet : harmless op = true) (alarmed : Bool)
    (answer : op.Answer) :
    (insight claim).advance (.building alarmed) op answer =
      .building (alarmed || op.alarms answer) := by
  cases op with
  | executed id error => cases quiet
  | _ => rfl

theorem insight_quiet (quiet : Quiet program) (alarmed : Bool) :
    (insight claim).Follows (.building alarmed) program fun _ reached =>
      ∃ after, reached = .building after := by
  induction program generalizing alarmed with
  | done value => exact ⟨alarmed, rfl⟩
  | call op rest induction =>
    refine ⟨Or.inl quiet.1, fun answer => ?_⟩
    rw [building_stays quiet.1]
    exact induction answer (quiet.2 answer) _

/-- A build that fails with a text that reads like a cancellation has been
handed such a text. -/
def Explains (claim : DeploymentClaim) (action : BuildAction α) : Prop :=
  ∀ alarmed, (insight claim).Follows (.building alarmed) action.run
    fun outcome reached => ∃ after, reached = .building after ∧
      ∀ message, outcome = .error message →
        after = true ∨ isCancelledError message = false

theorem explains_pure (value : α) :
    Explains claim (pure value : BuildAction α) := by
  intro alarmed
  refine ⟨alarmed, rfl, ?_⟩
  intro message impossible
  cases impossible

theorem explains_throw {message : String}
    (plain : isCancelledError message = false) :
    Explains claim (throw message : BuildAction α) := by
  intro alarmed
  refine ⟨alarmed, rfl, ?_⟩
  intro other failed
  cases failed
  exact Or.inr plain

theorem Explains.andThen {first : BuildAction α} {next : α → BuildAction β}
    (before : Explains claim first)
    (after : ∀ value, Explains claim (next value)) :
    Explains claim (first >>= next) := by
  intro alarmed
  rw [Protocol.follows_andThen]
  apply (before alarmed).weaken
  rintro (failure | value) reached ⟨raised, rfl, explained⟩
  · refine ⟨raised, rfl, ?_⟩
    intro message failed
    cases failed
    exact explained _ rfl
  · exact after value raised

theorem explains_lift (quiet : Quiet program) :
    Explains claim (ExceptT.lift program : BuildAction α) := by
  intro alarmed
  rw [Protocol.follows_lift]
  apply (insight_quiet quiet alarmed).weaken
  rintro value reached ⟨raised, rfl⟩
  refine ⟨raised, rfl, ?_⟩
  intro message impossible
  cases impossible

/-- An outside answer of which a build makes an error text. -/
def Reports (claim : DeploymentClaim) (answer : Action (Except String Unit)) :
    Prop :=
  ∀ alarmed, (insight claim).Follows (.building alarmed) answer
    fun outcome reached => ∃ after, reached = .building after ∧
      ∀ message, outcome = .error message → isCancelledError message = true →
        after = true

theorem alarm_raised (alarmed : Bool) {answer : Except String Unit}
    {message : String} (failed : answer = .error message)
    (alarming : isCancelledError message = true) :
    (alarmed || alarmingAnswer answer) = true := by
  subst failed
  simp [alarmingAnswer, alarming]

theorem reports_loadSpec (key : ResourceKey) :
    Reports claim (outside (.loadSpec key)) :=
  fun alarmed => ⟨Or.inl rfl, fun _ =>
    ⟨_, rfl, fun _ => alarm_raised alarmed⟩⟩

theorem reports_build : Reports claim (outside .build) :=
  fun alarmed => ⟨Or.inl rfl, fun _ =>
    ⟨_, rfl, fun _ => alarm_raised alarmed⟩⟩

theorem explained_append (bordered : Bordered context) {text : String}
    {raised : Bool} (alarming : isCancelledError text = true → raised = true) :
    ∀ message, (Except.error (context ++ text) : Except String α) =
      .error message → raised = true ∨ isCancelledError message = false := by
  intro message failed
  cases failed
  rw [isCancelledError_append bordered]
  cases plain : isCancelledError text with
  | false => exact Or.inr rfl
  | true => exact Or.inl (alarming plain)

theorem explains_request
    {answer : Action (Except String Unit)} (bordered : Bordered context)
    (reports : Reports claim answer) :
    Explains claim (request context answer) := by
  intro alarmed
  refine ((insight claim).follows_bind).mpr ((reports alarmed).weaken ?_)
  rintro (message | value) reached ⟨raised, rfl, alarming⟩
  · exact ⟨raised, rfl, explained_append bordered (alarming message rfl)⟩
  · exact ⟨raised, rfl, nofun⟩

/-- A statement of which a build makes an error text. -/
def Answers (claim : DeploymentClaim) (action : SqlAction α) : Prop :=
  ∀ alarmed, (insight claim).Follows (.building alarmed) action.run
    fun outcome reached => ∃ after, reached = .building after ∧
      ∀ error, outcome = .error error → isCancelledError error.text = true →
        after = true

theorem answers_sql {query : Query} (quiet : harmless (.sql query) = true) :
    Answers claim (sql query) := by
  intro alarmed
  refine ⟨Or.inl quiet, fun answer => ⟨_, rfl, ?_⟩⟩
  intro error failed alarming
  rw [failed]
  simp [Op.alarms, alarming]

theorem answers_fetchOne (key : ResourceKey) :
    Answers claim (fetchOne key) := by
  intro alarmed
  refine ((insight claim).follows_andThen).mpr
    ((answers_sql rfl alarmed).weaken ?_)
  rintro (failure | found) reached ⟨raised, rfl, alarming⟩
  · refine ⟨raised, rfl, ?_⟩
    intro error failed
    cases failed
    exact alarming _ rfl
  · cases found with
    | some resource =>
      refine ⟨raised, rfl, ?_⟩
      intro error impossible
      cases impossible
    | none =>
      refine ⟨raised, rfl, ?_⟩
      intro error failed alarming
      cases failed
      have plain : isCancelledError SqlError.rowNotFound.text = false := by
        decide +kernel
      rw [plain] at alarming
      cases alarming

theorem explains_statement {action : SqlAction α}
    (bordered : Bordered context) (answers : Answers claim action) :
    Explains claim (statement context action) := by
  intro alarmed
  refine ((insight claim).follows_bind).mpr ((answers alarmed).weaken ?_)
  rintro (error | value) reached ⟨raised, rfl, alarming⟩
  · exact ⟨raised, rfl, explained_append bordered (alarming error rfl)⟩
  · exact ⟨raised, rfl, nofun⟩

theorem explains_buildRounds (token rounds : Nat) :
    Explains claim (buildRounds token rounds) := by
  induction rounds with
  | zero => exact explains_pure ()
  | succ rounds induction =>
    refine (explains_request (by decide) reports_build).andThen fun _ => ?_
    refine (explains_lift (quiet_memory rfl)).andThen fun cancelled => ?_
    cases cancelled with
    | true => exact explains_throw (by decide +kernel)
    | false => exact induction

theorem explains_deploy (token : Nat) : Explains claim (deploy token) := by
  refine (explains_lift (quiet_outside .rounds)).andThen fun rounds => ?_
  refine (explains_buildRounds token rounds).andThen fun _ => ?_
  exact explains_request (by decide) reports_build

theorem explains_connect {pidError : String} (bordered : Bordered pidError)
    (deploymentId serverId : Int) :
    Explains claim (connect pidError deploymentId serverId) :=
  (explains_statement bordered (answers_sql rfl)).andThen fun _ =>
    explains_request (by decide) fun alarmed => ⟨Or.inl rfl, fun _ =>
      ⟨_, rfl, fun _ => alarm_raised alarmed⟩⟩

theorem explains_resolved (bordered : Bordered context) :
    Explains claim (request context resolved) :=
  explains_request bordered fun alarmed =>
    ⟨Or.inl rfl, fun _ => ⟨_, rfl, fun _ => alarm_raised alarmed⟩⟩

theorem explains_prepareExecutor {pidError : String}
    (bordered : Bordered pidError) (deploymentId : Int) (server : Option Int) :
    Explains claim (prepareExecutor pidError deploymentId server) := by
  cases server with
  | none => exact explains_pure ()
  | some serverId =>
    refine (explains_resolved (by decide +kernel)).andThen fun _ => ?_
    exact explains_connect bordered deploymentId serverId

theorem explains_deploymentContext
    (bordered : Bordered context) (key : ResourceKey) :
    Explains claim (deploymentContext context key) :=
  explains_statement bordered (answers_fetchOne key)

theorem explains_executeOperationApp (applicationId deploymentId : Int) :
    Explains claim (executeOperationApp applicationId deploymentId) := by
  refine (explains_resolved (by decide +kernel)).andThen fun _ => ?_
  refine (explains_request (by decide +kernel)
    (reports_loadSpec _)).andThen fun _ => ?_
  refine (explains_resolved (by decide +kernel)).andThen fun _ => ?_
  refine (explains_deploymentContext (by decide +kernel) _).andThen
    fun resource => ?_
  refine (explains_resolved (by decide +kernel)).andThen fun _ => ?_
  refine (explains_lift (quiet_resetToken _)).andThen fun token => ?_
  refine (explains_resolved (by decide +kernel)).andThen fun _ => ?_
  refine (explains_prepareExecutor (by decide +kernel) _ _).andThen fun _ => ?_
  refine (explains_lift (Program.only_perform rfl)).andThen fun _ => ?_
  exact explains_deploy token

theorem explains_executeOperationCompose (composeId deploymentId : Int)
    (operation : Operation) :
    Explains claim
      (executeOperationCompose composeId deploymentId operation) := by
  refine (explains_resolved (by decide +kernel)).andThen fun _ => ?_
  refine (explains_request (by decide +kernel)
    (reports_loadSpec _)).andThen fun _ => ?_
  refine (explains_resolved (by decide +kernel)).andThen fun _ => ?_
  refine (explains_deploymentContext (by decide +kernel) _).andThen
    fun resource => ?_
  refine (explains_resolved (by decide +kernel)).andThen fun _ => ?_
  refine (explains_lift (quiet_resetToken _)).andThen fun token => ?_
  refine (explains_prepareExecutor (by decide +kernel) _ _).andThen fun _ => ?_
  refine (explains_lift (Program.only_perform rfl)).andThen fun _ => ?_
  cases operation with
  | stop =>
    exact explains_lift ((quiet_outside .build).bind fun _ => trivial)
  | _ => exact explains_deploy token

theorem explains_operateDb (key : ResourceKey) (token : Nat)
    (operation : Operation) :
    Explains claim (operateDb key token operation) := by
  cases operation with
  | stop =>
    refine (explains_deploymentContext (by decide +kernel) _).andThen
      fun _ => ?_
    exact explains_deploy token
  | _ => exact explains_deploy token

theorem explains_executeOperationDb (databaseId : Int) (kind : DatabaseKind)
    (deploymentId : Int) (operation : Operation) :
    Explains claim
      (executeOperationDb databaseId kind deploymentId operation) := by
  refine (explains_resolved (by decide +kernel)).andThen fun _ => ?_
  refine (explains_deploymentContext (by decide +kernel) _).andThen
    fun resource => ?_
  refine (explains_resolved (by decide +kernel)).andThen fun _ => ?_
  refine (explains_lift (quiet_resetToken _)).andThen fun token => ?_
  refine (explains_resolved (by decide +kernel)).andThen fun _ => ?_
  have operates : Explains claim (do
      ExceptT.lift (spawn (.recordBuilderEvents deploymentId))
      operateDb (.database kind databaseId) token operation) :=
    (explains_lift (Program.only_perform rfl)).andThen fun _ =>
      explains_operateDb _ token operation
  generalize resource.serverId = server
  cases server with
  | none => exact operates
  | some serverId =>
    exact (explains_connect (by decide +kernel) _ _).andThen fun _ =>
      operates

theorem explains_executeOperation (claim : DeploymentClaim) :
    Explains claim (executeOperation claim) := by
  unfold executeOperation
  split
  · exact explains_executeOperationApp _ _
  · exact explains_executeOperationCompose _ _ _
  · exact explains_executeOperationDb _ _ _ _
  · apply explains_throw
    rw [String.append_assoc, String.append_assoc,
      isCancelledError_append (by decide), isCancelledError_number]
    decide +kernel

theorem answer_exists (op : Op) : Nonempty op.Answer := by
  cases op with
  | sql query => exact ⟨.error .rowNotFound⟩
  | memory op => cases op <;> infer_instance
  | outside request => exact ⟨(Input.fault "").answer request⟩
  | _ => exact ⟨()⟩

theorem decided_not_building (alarmed : Bool) :
    ¬ (insight claim).Follows (.decided alarmed) program fun _ reached =>
      ∃ after, reached = .building after := by
  induction program with
  | done value =>
    rintro ⟨_, impossible⟩
    cases impossible
  | call op rest induction =>
    obtain ⟨answer⟩ := answer_exists op
    exact fun follows => induction answer (follows.2 answer)

theorem quiet_of_building (alarmed : Bool)
    (follows : (insight claim).Follows (.building alarmed) program
      fun _ reached => ∃ after, reached = .building after) :
    Quiet program := by
  induction program generalizing alarmed with
  | done value => trivial
  | call op rest induction =>
    obtain ⟨harmless | ⟨id, error, rfl⟩, later⟩ := follows
    · refine ⟨harmless, fun answer => ?_⟩
      have stays := later answer
      rw [building_stays harmless] at stays
      exact induction answer _ stays
    · exact absurd (later ()) (decided_not_building alarmed)

theorem quiet_executeOperation (claim : DeploymentClaim) :
    Quiet (executeOperation claim).run := by
  apply @quiet_of_building _ claim _ false
  apply (explains_executeOperation claim false).weaken
  rintro _ reached ⟨after, building, _⟩
  exact ⟨after, building⟩

end OpenOxide.Deployment
