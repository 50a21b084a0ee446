import OpenOxide.Concurrency.Pool

/-!
# Invariants of the code in flight

The view of a pool forgets the code of its tasks.  Where an invariant has to say
what a task will still do, given what it has been answered so far, it is stated
for each task with the state and the history (`Good`), together with what holds
of the history alone (`Past`).  `TaskInvariant` collects what each kind of event
has to keep, and `Pool.Run.tasks_good` carries both through a run.
-/

namespace OpenOxide.Concurrency

variable {Op : Type} {Ret : Op → Type}
  {State Input Label Call Signal : Type}

structure TaskInvariant
    (machine : Machine Op Ret State Input Label Call Signal)
    (guard : Guard Op Ret State Input Label Call)
    (Good : State → List (Entry Op Ret Label) → Task Op Ret Label → Prop)
    (Past : List (Entry Op Ret Label) → Prop) : Prop where
  acts : ∀ (pool : Pool Op Ret State Label) (label : Label) (op : Op)
    (rest : Ret op → Program Op Ret Unit) (input : Input),
    Good pool.state pool.history ⟨label, .call op rest⟩ →
    guard.op pool.view label op input →
    Good (machine.exec op input pool.state).1
      (⟨label, op, (machine.exec op input pool.state).2⟩ :: pool.history)
      ⟨machine.protocol.advance label op (machine.exec op input pool.state).2,
        rest (machine.exec op input pool.state).2⟩
  waits : ∀ (pool : Pool Op Ret State Label) (label : Label) (op : Op)
    (rest : Ret op → Program Op Ret Unit) (input : Input)
    (task : Task Op Ret Label),
    Good pool.state pool.history ⟨label, .call op rest⟩ →
    Good pool.state pool.history task →
    Good (machine.exec op input pool.state).1
      (⟨label, op, (machine.exec op input pool.state).2⟩ :: pool.history) task
  records : ∀ (pool : Pool Op Ret State Label) (label : Label) (op : Op)
    (rest : Ret op → Program Op Ret Unit) (input : Input),
    Good pool.state pool.history ⟨label, .call op rest⟩ →
    Past pool.history →
    Past (⟨label, op, (machine.exec op input pool.state).2⟩ :: pool.history)
  children : ∀ op, ∀ task ∈ machine.children op, ∀ state history,
    Good state history task
  serve : ∀ call state history, Good state history (machine.serve call)
  unwind : ∀ state history task handler, Good state history task →
    machine.unwind task.label = some handler → Good state history handler
  signal : ∀ signal state history task, Good state history task →
    Good (machine.signal signal state) history task

namespace Pool

variable {machine : Machine Op Ret State Input Label Call Signal}
  {guard : Guard Op Ret State Input Label Call}
  {Good : State → List (Entry Op Ret Label) → Task Op Ret Label → Prop}
  {Past : List (Entry Op Ret Label) → Prop}

/-- Every task is good, and so is the past. -/
def Sound (Good : State → List (Entry Op Ret Label) →
      Task Op Ret Label → Prop)
    (Past : List (Entry Op Ret Label) → Prop)
    (pool : Pool Op Ret State Label) : Prop :=
  (∀ task ∈ pool.tasks, Good pool.state pool.history task) ∧
    Past pool.history

theorem Sound.step (invariant : TaskInvariant machine guard Good Past)
    {pool next : Pool Op Ret State Label} {event : Event Input Call Signal}
    (sound : pool.Sound Good Past) (meets : pool.Meets guard event)
    (stepped : pool.step? machine event = some next) :
    next.Sound Good Past := by
  obtain ⟨good, past⟩ := sound
  cases event with
  | run index input =>
    obtain ⟨label, op, rest, found, ready⟩ := step?_run stepped
    simp only [step?, found, ready, if_true] at stepped
    cases stepped
    have acting := good _ (List.mem_of_getElem? found)
    constructor
    · intro task membership
      rcases mem_splice membership with old | rfl | spawned
      · exact invariant.waits pool label op rest input task acting
          (good task old)
      · exact invariant.acts pool label op rest input acting
          (meets label op rest found)
      · exact invariant.children op task spawned _ _
    · exact invariant.records pool label op rest input acting past
  | unwind index =>
    obtain ⟨task, handler, found, handled, rfl⟩ := step?_unwind stepped
    refine ⟨?_, past⟩
    intro member membership
    rcases mem_splice membership with old | rfl | spawned
    · exact good member old
    · exact invariant.unwind _ _ task _
        (good task (List.mem_of_getElem? found)) handled
    · cases spawned
  | arrive call =>
    cases stepped
    refine ⟨?_, past⟩
    intro member membership
    rcases List.mem_append.mp membership with old | new
    · exact good member old
    · rw [mem_kept new]
      exact invariant.serve call _ _
  | signal signal =>
    cases stepped
    exact ⟨fun task member => invariant.signal signal _ _ task
      (good task member), past⟩
  | restart =>
    cases stepped
    exact ⟨by simp, past⟩

theorem Run.tasks_good (invariant : TaskInvariant machine guard Good Past)
    {start pool : Pool Op Ret State Label}
    {events : List (Event Input Call Signal)}
    (run : Run machine guard start events pool)
    (initial : start.Sound Good Past) :
    pool.Sound Good Past := by
  induction run with
  | nil => exact initial
  | snoc _ meets stepped induction =>
    exact induction.step invariant meets stepped

end Pool

end OpenOxide.Concurrency
