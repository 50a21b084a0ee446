import Mathlib.Data.List.Basic

/-!
# Computations that fail without undoing

An attempt changes the world step by step and may fail on the way; what it did
before it failed stays done.  `Keeps` says that an invariant survives an attempt
whether it fails or not.  Its rules follow the shape of the computation.  For
loops there are two: one with a fixed invariant, and one whose invariant speaks
about the items that are still to come.
-/

namespace OpenOxide.Effects

variable {World Error Result Next Item : Type}

abbrev Attempt (World Error Result : Type) :=
  ExceptT Error (StateM World) Result

/-- Read the world. -/
def Attempt.look : Attempt World Error World :=
  getThe World

/-- Change the world. -/
def Attempt.change (change : World → World) : Attempt World Error Unit :=
  modifyThe World change

/-- An attempt that only answers. -/
def Attempt.ofExcept (answer : Except Error Result) :
    Attempt World Error Result :=
  ExceptT.mk (Pure.pure answer)

/-- Go on after an attempt, whether it fails or not. -/
def Attempt.outcome (action : Attempt World Error Result) :
    Attempt World Error (Except Error Result) :=
  ExceptT.lift action.run

/-- The answer of an attempt that starts in a world. -/
def Attempt.answer (action : Attempt World Error Result) (world : World) :
    Except Error Result :=
  (action.run.run world).1

/-- The world in which an attempt leaves off. -/
def Attempt.worldAfter (action : Attempt World Error Result) (world : World) :
    World :=
  (action.run.run world).2

variable {action : Attempt World Error Result}
  {next : Result → Attempt World Error Next} {world : World}

variable {result : Result}

theorem Attempt.bind_ok (succeeded : action.answer world = .ok result) :
    (action >>= next).answer world =
        (next result).answer (action.worldAfter world) ∧
      (action >>= next).worldAfter world =
        (next result).worldAfter (action.worldAfter world) := by
  simp only [answer, worldAfter] at *
  simp only [ExceptT.run_bind, StateT.run_bind]
  cases ran : (action.run.run world) with
  | mk first second =>
    rw [ran] at succeeded
    cases succeeded
    exact ⟨rfl, rfl⟩

theorem Attempt.bind_error {error : Error}
    (failed : action.answer world = .error error) :
    (action >>= next).answer world = .error error ∧
      (action >>= next).worldAfter world = action.worldAfter world := by
  simp only [answer, worldAfter] at *
  simp only [ExceptT.run_bind, StateT.run_bind]
  cases ran : (action.run.run world) with
  | mk first second =>
    rw [ran] at failed
    cases failed
    exact ⟨rfl, rfl⟩

theorem Attempt.bind_inv {last : Next}
    (succeeded : (action >>= next).answer world = .ok last) :
    ∃ result, action.answer world = .ok result ∧
      (next result).answer (action.worldAfter world) = .ok last ∧
      (action >>= next).worldAfter world =
        (next result).worldAfter (action.worldAfter world) := by
  cases ran : action.answer world with
  | error error =>
    rw [(Attempt.bind_error ran).1] at succeeded
    cases succeeded
  | ok result =>
    rw [(Attempt.bind_ok ran).1] at succeeded
    exact ⟨result, rfl, succeeded, (Attempt.bind_ok ran).2⟩

theorem Attempt.ofExcept_ok {read : Except Error Result}
    (succeeded : read = .ok result) (next : Result → Attempt World Error Next) :
    (Attempt.ofExcept read >>= next) = next result := by
  rw [succeeded]
  rfl

/-- Whatever the attempt answers, the invariant holds after it. -/
def Keeps (Invariant : World → Prop) (action : Attempt World Error Result) :
    Prop :=
  ∀ world, Invariant world → Invariant (action.worldAfter world)

variable {Invariant : World → Prop}

theorem Keeps.pure (result : Result) :
    Keeps Invariant (Pure.pure result : Attempt World Error Result) := by
  intro world holds
  exact holds

theorem Keeps.throw (error : Error) :
    Keeps Invariant (MonadExcept.throw error : Attempt World Error Result) := by
  intro world holds
  exact holds

theorem Keeps.change {change : World → World}
    (kept : ∀ world, Invariant world → Invariant (change world)) :
    Keeps Invariant (Attempt.change change : Attempt World Error Unit) := by
  intro world holds
  exact kept world holds

theorem Keeps.ofExcept (answer : Except Error Result) :
    Keeps Invariant (Attempt.ofExcept answer : Attempt World Error Result) := by
  intro world holds
  exact holds

theorem Keeps.outcome
    (kept : Keeps Invariant action) : Keeps Invariant action.outcome := by
  intro world holds
  exact kept world holds

theorem Keeps.look {next : World → Attempt World Error Next}
    (later : ∀ world, Invariant world →
      Invariant ((next world).worldAfter world)) :
    Keeps Invariant (Attempt.look >>= next) := by
  intro world holds
  exact later world holds

theorem Keeps.seq {Stronger : World → Prop} (first : Keeps Stronger action)
    (failed : ∀ world, Stronger world → Invariant world)
    (later : ∀ result world, Stronger world →
      Invariant ((next result).worldAfter world)) :
    ∀ world, Stronger world → Invariant ((action >>= next).worldAfter world) := by
  intro world holds
  have between := first world holds
  cases ran : action.answer world with
  | ok result =>
    rw [(Attempt.bind_ok ran).2]
    exact later result _ between
  | error error =>
    rw [(Attempt.bind_error ran).2]
    exact failed _ between

theorem Keeps.after
    (established : Invariant (action.worldAfter world))
    (later : ∀ result, Keeps Invariant (next result)) :
    Invariant ((action >>= next).worldAfter world) := by
  cases ran : action.answer world with
  | ok result =>
    rw [(Attempt.bind_ok ran).2]
    exact later result _ established
  | error error =>
    rw [(Attempt.bind_error ran).2]
    exact established

theorem Keeps.bind (first : Keeps Invariant action)
    (later : ∀ result, Keeps Invariant (next result)) :
    Keeps Invariant (action >>= next) :=
  fun world holds => Keeps.after (first world holds) later

variable {step : Result → Item → Attempt World Error Result}

theorem Keeps.loop {step : Result → Item → Attempt World Error Result}
    {items : List Item}
    (kept : ∀ item ∈ items, ∀ result, Keeps Invariant (step result item))
    (result : Result) : Keeps Invariant (items.foldlM step result) := by
  induction items generalizing result with
  | nil => exact .pure result
  | cons item items induction =>
    apply Keeps.bind
    · exact kept item List.mem_cons_self result
    · intro next
      exact induction (fun other member =>
        kept other (List.mem_cons_of_mem _ member)) next

theorem Keeps.first_round {step : Result → Item → Attempt World Error Result}
    {item : Item} {items : List Item} (result : Result)
    (first : Invariant ((step result item).worldAfter world))
    (kept : ∀ item ∈ items, ∀ result, Keeps Invariant (step result item)) :
    Invariant (((item :: items).foldlM step result).worldAfter world) := by
  exact Keeps.after first (Keeps.loop kept)

/-- A loop whose invariant speaks about the items to come. -/
theorem Keeps.foldlM {Holds : List Item → World → Prop}
    {step : Result → Item → Attempt World Error Result}
    (kept : ∀ result item items world, Holds (item :: items) world →
      Holds items ((step result item).worldAfter world))
    (ended : ∀ items world, Holds items world → Invariant world)
    (items : List Item) (result : Result) :
    ∀ world, Holds items world →
      Invariant ((items.foldlM step result).worldAfter world) := by
  induction items generalizing result with
  | nil =>
    intro world holds
    exact ended [] world holds
  | cons item items induction =>
    intro world holds
    have between := kept result item items world holds
    rw [List.foldlM_cons]
    cases ran : (step result item).answer world with
    | ok next =>
      rw [(Attempt.bind_ok ran).2]
      exact induction next _ between
    | error error =>
      rw [(Attempt.bind_error ran).2]
      exact ended items _ between

end OpenOxide.Effects
