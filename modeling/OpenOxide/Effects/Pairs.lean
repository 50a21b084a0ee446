import OpenOxide.Effects.Attempt

/-!
# Two runs of one computation

A computation is blind to the difference between related worlds when it gives
the same answer in both and leaves them related.  The rules follow the shape of
the computation, so that only its statements have to be looked at.
-/

namespace OpenOxide.Effects

variable {World Error Result Next Item : Type}

/-- A statement either fails and changes nothing, or answers and changes the
world. -/
def Attempt.statement (run : World → Except Error (Result × World)) :
    Attempt World Error Result :=
  ExceptT.mk fun world =>
    match run world with
    | .error error => (.error error, world)
    | .ok (result, next) => (.ok result, next)

/-- A statement that only reads. -/
def Attempt.query (read : World → Except Error Result) :
    Attempt World Error Result :=
  Attempt.statement fun world => (read world).map fun result => (result, world)

theorem Attempt.answer_statement
    (run : World → Except Error (Result × World)) (world : World) :
    (Attempt.statement run).answer world = (run world).map Prod.fst := by
  simp only [Attempt.answer, Attempt.statement, ExceptT.run, ExceptT.mk,
    StateT.run]
  cases run world <;> rfl

theorem Attempt.worldAfter_statement
    (run : World → Except Error (Result × World)) (world : World) :
    (Attempt.statement run).worldAfter world =
      ((run world).map Prod.snd).toOption.getD world := by
  simp only [Attempt.worldAfter, Attempt.statement, ExceptT.run, ExceptT.mk,
    StateT.run]
  cases run world <;> rfl

theorem Attempt.answer_query (read : World → Except Error Result)
    (world : World) : (Attempt.query read).answer world = read world := by
  rw [Attempt.query, Attempt.answer_statement]
  cases read world <;> rfl

theorem Attempt.worldAfter_query (read : World → Except Error Result)
    (world : World) : (Attempt.query read).worldAfter world = world := by
  rw [Attempt.query, Attempt.worldAfter_statement]
  cases read world <;> rfl

variable {Invariant : World → Prop} {action : Attempt World Error Result}
  {run : World → Except Error (Result × World)}

theorem Keeps.statement (kept : ∀ world result next, Invariant world →
      run world = .ok (result, next) → Invariant next) :
    Keeps Invariant (Attempt.statement run) := by
  intro world holds
  rw [Attempt.worldAfter_statement]
  cases ran : run world with
  | error error => exact holds
  | ok done => exact kept world done.1 done.2 holds ran

theorem Keeps.query (read : World → Except Error Result) :
    Keeps Invariant (Attempt.query read) := by
  intro world holds
  rw [Attempt.worldAfter_query]
  exact holds

/-- Two statements fail alike, or answer the same and leave related worlds. -/
inductive Alike (Related : World → World → Prop) :
    Except Error (Result × World) → Except Error (Result × World) → Prop
  | failed (error : Error) : Alike Related (.error error) (.error error)
  | done (result : Result) {left right : World} (after : Related left right) :
      Alike Related (.ok (result, left)) (.ok (result, right))

/-- The same answer in related worlds, and related worlds after it. -/
def Blind (Related : World → World → Prop)
    (action : Attempt World Error Result) : Prop :=
  ∀ left right, Related left right →
    action.answer left = action.answer right ∧
      Related (action.worldAfter left) (action.worldAfter right)

/-- The same for a single pair of worlds. -/
def BlindAt (Related : World → World → Prop) (left right : World)
    (action : Attempt World Error Result) : Prop :=
  action.answer left = action.answer right ∧
    Related (action.worldAfter left) (action.worldAfter right)

namespace Blind

variable {Related : World → World → Prop}

theorem pure (result : Result) :
    Blind Related (Pure.pure result : Attempt World Error Result) := by
  intro left right related
  exact ⟨rfl, related⟩

theorem throw (error : Error) :
    Blind Related (MonadExcept.throw error : Attempt World Error Result) := by
  intro left right related
  exact ⟨rfl, related⟩

theorem ofExcept (answer : Except Error Result) :
    Blind Related (Attempt.ofExcept answer : Attempt World Error Result) := by
  intro left right related
  exact ⟨rfl, related⟩

theorem outcome
    (blind : Blind Related action) : Blind Related action.outcome := by
  intro left right related
  obtain ⟨same, after⟩ := blind left right related
  exact ⟨congrArg Except.ok same, after⟩

variable {next : Result → Attempt World Error Next}

theorem bind_at {left right : World}
    (first : BlindAt Related left right action)
    (later : ∀ result, action.answer left = .ok result →
      BlindAt Related (action.worldAfter left) (action.worldAfter right)
        (next result)) :
    BlindAt Related left right (action >>= next) := by
  obtain ⟨same, after⟩ := first
  unfold BlindAt
  cases ran : action.answer left with
  | ok result =>
    have other := same.symm.trans ran
    rw [(Attempt.bind_ok ran).1, (Attempt.bind_ok ran).2,
      (Attempt.bind_ok other).1, (Attempt.bind_ok other).2]
    exact later result ran
  | error error =>
    have other := same.symm.trans ran
    rw [(Attempt.bind_error ran).1, (Attempt.bind_error ran).2,
      (Attempt.bind_error other).1, (Attempt.bind_error other).2]
    exact ⟨rfl, after⟩

theorem bind_of
    {next : Result → Attempt World Error Next} {Fact : Result → Prop}
    (first : Blind Related action)
    (known : ∀ left right result, Related left right →
      action.answer left = .ok result → Fact result)
    (later : ∀ result, Fact result → Blind Related (next result)) :
    Blind Related (action >>= next) := by
  intro left right related
  have started := first left right related
  refine bind_at started fun result ran => ?_
  exact later result (known left right result related ran) _ _ started.2

theorem bind (first : Blind Related action)
    (later : ∀ result, Blind Related (next result)) :
    Blind Related (action >>= next) :=
  first.bind_of (fun _ _ _ _ _ => trivial) fun result _ => later result

theorem reply (blind : Blind Related action) {respond : Result → Next} :
    Blind Related (action >>= fun result => Pure.pure (respond result)) :=
  blind.bind fun _ => .pure _

/-- A statement is blind when it fails or succeeds alike. -/
theorem statement (alike : ∀ left right, Related left right →
      Alike Related (run left) (run right)) :
    Blind Related (Attempt.statement run) := by
  intro left right related
  have both := alike left right related
  simp only [Attempt.answer_statement, Attempt.worldAfter_statement]
  cases first : run left with
  | error error =>
    rw [first] at both
    cases second : run right with
    | error other =>
      rw [second] at both
      cases both
      exact ⟨rfl, related⟩
    | ok done =>
      rw [second] at both
      cases both
  | ok done =>
    rw [first] at both
    cases second : run right with
    | error other =>
      rw [second] at both
      cases both
    | ok other =>
      rw [second] at both
      cases both with
      | done result after => exact ⟨rfl, after⟩

theorem query {read : World → Except Error Result}
    (same : ∀ left right, Related left right → read left = read right) :
    Blind Related (Attempt.query read) := by
  intro left right related
  rw [Attempt.answer_query, Attempt.answer_query, Attempt.worldAfter_query,
    Attempt.worldAfter_query]
  exact ⟨same left right related, related⟩

theorem query_bind_at {read : World → Except Error Result}
    {next : Result → Attempt World Error Next} {left right : World}
    (related : Related left right) (same : read left = read right)
    (later : ∀ result, read left = .ok result →
      BlindAt Related left right (next result)) :
    BlindAt Related left right (Attempt.query read >>= next) := by
  apply bind_at
  · rw [BlindAt, Attempt.answer_query, Attempt.answer_query,
      Attempt.worldAfter_query, Attempt.worldAfter_query]
    exact ⟨same, related⟩
  · intro result ran
    rw [Attempt.worldAfter_query, Attempt.worldAfter_query]
    exact later result (Attempt.answer_query read left ▸ ran)

theorem loop {step : Result → Item → Attempt World Error Result}
    {items : List Item}
    (rounds : ∀ item ∈ items, ∀ result, Blind Related (step result item))
    (result : Result) : Blind Related (items.foldlM step result) := by
  induction items generalizing result with
  | nil => exact .pure result
  | cons item items induction =>
    apply Blind.bind
    · exact rounds item List.mem_cons_self result
    · intro next
      exact induction (fun other member =>
        rounds other (List.mem_cons_of_mem _ member)) next

theorem keeping (blind : Blind Related action)
    (kept : Keeps Invariant action) :
    Blind (fun left right => Related left right ∧ Invariant left) action := by
  intro left right related
  obtain ⟨same, after⟩ := blind left right related.1
  exact ⟨same, after, kept left related.2⟩

end Blind

end OpenOxide.Effects
