import OpenOxide.Concurrency.Pool

/-!
# Ghost labels

The label of a task says what the rest of a development needs of its past.  Where
one result needs more, the machine is run again with a ghost beside each label:
the ghost remembers answers, and a finer protocol may refer to it.  Forgetting the
ghosts gives the machine back, so every run of the machine is the image of a run
with ghosts (`Pool.Run.haunted`), and every step with ghosts is a step without
them (`View.Step.forget`).
-/

namespace OpenOxide.Concurrency

variable {Op : Type} {Ret : Op → Type}
  {State Input Label Call Signal Ghost : Type}

/-- What tasks remember beside their labels, and what that allows. -/
structure Ghosts (Op : Type) (Ret : Op → Type) (Label Ghost : Type) where
  fresh : Ghost
  note : Label → Ghost → (op : Op) → Ret op → Ghost
  allows : Label → Ghost → Op → Prop

def Protocol.haunt (protocol : Protocol Op Ret Label)
    (ghosts : Ghosts Op Ret Label Ghost) :
    Protocol Op Ret (Label × Ghost) where
  allows label op := protocol.allows label.1 op ∧
    ghosts.allows label.1 label.2 op
  advance label op answer := (protocol.advance label.1 op answer,
    ghosts.note label.1 label.2 op answer)

def Task.haunt (ghost : Ghost) (task : Task Op Ret Label) :
    Task Op Ret (Label × Ghost) :=
  ⟨(task.label, ghost), task.code⟩

def Task.forget (task : Task Op Ret (Label × Ghost)) : Task Op Ret Label :=
  ⟨task.label.1, task.code⟩

def Entry.haunt (ghost : Ghost) (entry : Entry Op Ret Label) :
    Entry Op Ret (Label × Ghost) :=
  ⟨(entry.label, ghost), entry.op, entry.answer⟩

def Entry.forget (entry : Entry Op Ret (Label × Ghost)) :
    Entry Op Ret Label :=
  ⟨entry.label.1, entry.op, entry.answer⟩

def Pool.haunt (ghost : Ghost) (pool : Pool Op Ret State Label) :
    Pool Op Ret State (Label × Ghost) :=
  ⟨pool.state, pool.tasks.map (Task.haunt ghost),
    pool.history.map (Entry.haunt ghost)⟩

def Pool.forget (pool : Pool Op Ret State (Label × Ghost)) :
    Pool Op Ret State Label :=
  ⟨pool.state, pool.tasks.map Task.forget, pool.history.map Entry.forget⟩

def View.forget (view : View Op Ret State (Label × Ghost)) :
    View Op Ret State Label :=
  ⟨view.state, view.labels.map Prod.fst, view.history.map Entry.forget⟩

/-- The machine whose tasks carry ghosts. -/
def Machine.haunt (machine : Machine Op Ret State Input Label Call Signal)
    (ghosts : Ghosts Op Ret Label Ghost) :
    Machine Op Ret State Input (Label × Ghost) Call Signal where
  protocol := machine.protocol.haunt ghosts
  ready := machine.ready
  exec := machine.exec
  children op := (machine.children op).map (Task.haunt ghosts.fresh)
  serve call := (machine.serve call).haunt ghosts.fresh
  unwind label := (machine.unwind label.1).map (Task.haunt ghosts.fresh)
  signal := machine.signal
  restart := machine.restart
  ended label := machine.ended label.1

/-- Ghosts are nothing a guard could see. -/
def Guard.haunt (guard : Guard Op Ret State Input Label Call) :
    Guard Op Ret State Input (Label × Ghost) Call where
  op view label op input := guard.op view.forget label.1 op input
  unwind view label := guard.unwind view.forget label.1
  arrive view call := guard.arrive view.forget call
  restart := guard.restart

theorem Pool.forget_haunt (ghost : Ghost) (pool : Pool Op Ret State Label) :
    (pool.haunt ghost).forget = pool := by
  have whole : ∀ task : Task Op Ret Label,
      (Task.haunt ghost task).forget = task := fun _ => rfl
  have past : ∀ entry : Entry Op Ret Label,
      (Entry.haunt ghost entry).forget = entry := fun _ => rfl
  simp [haunt, forget, Function.comp_def, whole, past]

theorem Pool.view_forget (pool : Pool Op Ret State (Label × Ghost)) :
    pool.forget.view = pool.view.forget := by
  simp [forget, view, View.forget, Function.comp_def, Task.forget]

section Runs

variable {machine : Machine Op Ret State Input Label Call Signal}
  {guard : Guard Op Ret State Input Label Call}
  {ghosts : Ghosts Op Ret Label Ghost}

private theorem kept_forget (task : Task Op Ret (Label × Ghost)) :
    task.kept.map Task.forget = task.forget.kept := by
  obtain ⟨label, code⟩ := task
  cases code with
  | done | call =>
    rfl

private theorem forget_haunt_all (tasks : List (Task Op Ret Label)) :
    (tasks.map (Task.haunt ghosts.fresh)).map Task.forget = tasks := by
  induction tasks with
  | nil => rfl
  | cons first others induction =>
    exact congrArg (List.cons first) induction

private theorem splice_forget
    (tasks left spawned : List (Task Op Ret (Label × Ghost))) (index : Nat) :
    (Pool.splice tasks index left spawned).map Task.forget =
      Pool.splice (tasks.map Task.forget) index (left.map Task.forget)
        (spawned.map Task.forget) := by
  simp [Pool.splice, List.map_take, List.map_drop]

variable {pool : Pool Op Ret State (Label × Ghost)}
  {event : Event Input Call Signal}

/-- An event that a pool can take, the pool with ghosts can take as well. -/
theorem Pool.step_haunted {next : Pool Op Ret State Label}
    (stepped : pool.forget.step? machine event = some next) :
    ∃ after, pool.step? (machine.haunt ghosts) event = some after ∧
      after.forget = next := by
  cases event with
  | run index input =>
    obtain ⟨label, op, rest, found, ready⟩ := step?_run stepped
    simp only [step?, found, ready, if_true] at stepped
    cases stepped
    simp only [forget, List.getElem?_map, Option.map_eq_some_iff] at found
    obtain ⟨⟨⟨_, ghost⟩, _⟩, present, same⟩ := found
    cases same
    have able : (machine.haunt ghosts).ready op pool.state = true := ready
    simp only [step?, present, able, if_true]
    refine ⟨_, rfl, ?_⟩
    simp only [forget, splice_forget, kept_forget, List.map_cons]
    change Pool.mk _ (splice _ _ _ ((List.map _ _).map _)) _ = _
    rw [forget_haunt_all]
    rfl
  | unwind index =>
    obtain ⟨task, handler, found, handled, rfl⟩ := step?_unwind stepped
    simp only [forget, List.getElem?_map, Option.map_eq_some_iff] at found
    obtain ⟨origin, present, rfl⟩ := found
    have caught : (machine.haunt ghosts).unwind origin.label =
        some (handler.haunt ghosts.fresh) := by
      change (machine.unwind origin.label.1).map _ = _
      have same : machine.unwind origin.label.1 = some handler := handled
      rw [same]
      rfl
    simp only [step?, present, caught]
    refine ⟨_, rfl, ?_⟩
    simp only [forget, splice_forget, kept_forget]
    rfl
  | arrive call =>
    cases stepped
    refine ⟨_, rfl, ?_⟩
    simp only [forget, List.map_append, kept_forget]
    rfl
  | signal | restart =>
    cases stepped
    exact ⟨_, rfl, rfl⟩

theorem Pool.meets_haunted (meets : pool.forget.Meets guard event) :
    pool.Meets guard.haunt event := by
  cases event with
  | run index input =>
    intro label op rest found
    have forgotten : pool.forget.tasks[index]? =
        some ⟨label.1, .call op rest⟩ := by
      simp [forget, found, Task.forget]
    have permitted := meets label.1 op rest forgotten
    rw [view_forget] at permitted
    exact permitted
  | unwind index =>
    intro task found
    have forgotten : pool.forget.tasks[index]? = some task.forget := by
      simp [forget, found]
    have permitted := meets task.forget forgotten
    rw [view_forget] at permitted
    exact permitted
  | arrive call =>
    change guard.arrive pool.view.forget call
    rw [← view_forget]
    exact meets
  | signal signal => trivial
  | restart => exact meets

theorem Pool.Run.haunted {start pool : Pool Op Ret State Label}
    {events : List (Event Input Call Signal)}
    (run : Run machine guard start events pool) :
    ∃ after, Run (machine.haunt ghosts) guard.haunt
        (start.haunt ghosts.fresh) events after ∧
      after.forget = pool := by
  induction run with
  | nil => exact ⟨_, .nil, forget_haunt _ _⟩
  | snoc _ meets stepped induction =>
    obtain ⟨before, ran, rfl⟩ := induction
    have possible : ∃ after,
        before.step? (machine.haunt ghosts) _ = some after ∧ _ :=
      step_haunted stepped
    obtain ⟨after, taken, forgotten⟩ := possible
    exact ⟨after, ran.snoc (meets_haunted meets) taken, forgotten⟩

theorem Replaced.forget {label reached : Label × Ghost} {op : Op}
    {labels next : List (Label × Ghost)}
    (replaced : Replaced (machine.haunt ghosts).ended label reached
      (((machine.haunt ghosts).children op).map Task.label) labels next) :
    Replaced machine.ended label.1 reached.1
      ((machine.children op).map Task.label) (labels.map Prod.fst)
      (next.map Prod.fst) := by
  have forgotten : Replaced machine.ended _ _ _ _ _ :=
    @Replaced.map _ _ _ _ _ _ _ machine.ended Prod.fst replaced
  change Replaced _ _ _ (((List.map _ _).map Task.label).map Prod.fst)
    _ _ at forgotten
  simp only [List.map_map, Function.comp_def, Task.haunt] at forgotten
  exact forgotten

theorem View.Step.forget {view next : View Op Ret State (Label × Ghost)}
    (step : View.Step (machine.haunt ghosts) guard.haunt view next) :
    View.Step machine guard view.forget next.forget := by
  cases step with
  | @op labels label op input replaced allowed ready permitted =>
    exact .op replaced.forget allowed.1 ready permitted
  | @unwind labels label handler replaced handled permitted =>
    obtain ⟨origin, caught, rfl⟩ := Option.map_eq_some_iff.mp handled
    exact .unwind (@Replaced.map _ _ _ _ _ _ _ machine.ended Prod.fst replaced)
      caught permitted
  | @arrive left call permitted joined =>
    have forgotten : left.map Prod.fst = [(machine.serve call).label] ∨
        left.map Prod.fst = [] ∧ machine.ended (machine.serve call).label := by
      rcases joined with rfl | ⟨rfl, hasEnded⟩
      · exact .inl rfl
      · exact .inr ⟨rfl, hasEnded⟩
    have step : View.Step machine guard view.forget _ :=
      .arrive call permitted forgotten
    simpa [View.forget] using step
  | signal signal => exact .signal signal
  | restart permitted => exact .restart permitted

end Runs

variable {ghosts : Ghosts Op Ret Label Ghost}
  {protocol : Protocol Op Ret Label}

theorem Protocol.Follows.haunt {Aside : Label → Prop}
    (free : ∀ label ghost op, Aside label → ghosts.allows label ghost op)
    (stays : ∀ label op answer, Aside label → protocol.allows label op →
      Aside (protocol.advance label op answer))
    {α : Type} {code : Program Op Ret α} {ends : α → Label → Prop}
    {label : Label} (follows : protocol.Follows label code ends)
    (aside : Aside label) (ghost : Ghost) :
    (protocol.haunt ghosts).Follows (label, ghost) code
      fun value reached => ends value reached.1 := by
  induction code generalizing label ghost with
  | done value => exact follows
  | call op rest induction =>
    obtain ⟨allowed, later⟩ := follows
    refine ⟨⟨allowed, free label ghost op aside⟩, fun answer => ?_⟩
    exact induction answer (later answer)
      (stays label op answer aside allowed) _

theorem Protocol.Follows.forget {α : Type} {code : Program Op Ret α}
    {ends : α → Label → Prop} {label : Label} {ghost : Ghost}
    (follows : (protocol.haunt ghosts).Follows (label, ghost) code
      fun value reached => ends value reached.1) :
    protocol.Follows label code ends := by
  induction code generalizing label ghost with
  | done value => exact follows
  | call op rest induction =>
    exact ⟨follows.1.1, fun answer => induction answer (follows.2 answer)⟩

end OpenOxide.Concurrency
