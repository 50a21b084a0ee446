import OpenOxide.Concurrency.Program

/-!
# Pools of interleaved tasks

A machine gives operations their meaning on a shared state, and a pool is
that state with the tasks in flight.  Each event of a run lets one task
perform its next operation, unwinds a task into its panic handler, admits a
new call, delivers an outside signal, or restarts the process.

The view of a pool forgets the code and keeps the labels.  When every task
follows the protocol of its label, each step of the pool is a step of the
view in which the task's operation is one its label allows
(`Pool.step_view`).  Invariants are therefore proved on views, where no
program has to be unfolded, and `Pool.Run.reaches` carries them back.
-/

namespace OpenOxide.Concurrency

/-- A running task: the point it has reached and the code it has left. -/
structure Task (Op : Type) (Ret : Op → Type) (Label : Type) where
  label : Label
  code : Program Op Ret Unit

/-- One operation that has been performed, with its answer. -/
structure Entry (Op : Type) (Ret : Op → Type) (Label : Type) where
  label : Label
  op : Op
  answer : Ret op

/-- The meaning of the operations and of the events that create tasks. -/
structure Machine (Op : Type) (Ret : Op → Type)
    (State Input Label Call Signal : Type) where
  protocol : Protocol Op Ret Label
  ready : Op → State → Bool
  exec : (op : Op) → Input → State → State × Ret op
  children : Op → List (Task Op Ret Label)
  serve : Call → Task Op Ret Label
  unwind : Label → Option (Task Op Ret Label)
  signal : Signal → State → State
  restart : State → State
  ended : Label → Prop

/-- What happens next in a run of the pool. -/
inductive Event (Input Call Signal : Type) where
  | run (index : Nat) (input : Input)
  | unwind (index : Nat)
  | arrive (call : Call)
  | signal (signal : Signal)
  | restart

/-- The shared state and the tasks in flight.  The history lists the
performed operations, the newest first. -/
structure Pool (Op : Type) (Ret : Op → Type) (State Label : Type) where
  state : State
  tasks : List (Task Op Ret Label)
  history : List (Entry Op Ret Label)

/-- A pool without its code. -/
structure View (Op : Type) (Ret : Op → Type) (State Label : Type) where
  state : State
  labels : List Label
  history : List (Entry Op Ret Label)

/-- What the steps of a run are allowed to look like. -/
structure Guard (Op : Type) (Ret : Op → Type)
    (State Input Label Call : Type) where
  op : View Op Ret State Label → Label → Op → Input → Prop
  unwind : View Op Ret State Label → Label → Prop
  arrive : View Op Ret State Label → Call → Prop
  restart : Prop

section

variable {Op : Type} {Ret : Op → Type}
  {State Input Label Call Signal : Type}

/-- A finished task leaves the pool. -/
def Task.kept (task : Task Op Ret Label) : List (Task Op Ret Label) :=
  match task.code with
  | .done _ => []
  | .call _ _ => [task]

def Pool.view (pool : Pool Op Ret State Label) : View Op Ret State Label :=
  { state := pool.state
    labels := pool.tasks.map Task.label
    history := pool.history }

namespace Machine

variable (machine : Machine Op Ret State Input Label Call Signal)

/-- A task whose code follows the protocol from its label to an ended one. -/
def TaskFollows (task : Task Op Ret Label) : Prop :=
  machine.protocol.Follows task.label task.code
    fun _ reached => machine.ended reached

/-- Every task the machine creates follows the protocol. -/
structure Sound : Prop where
  children : ∀ op, ∀ task ∈ machine.children op, machine.TaskFollows task
  serve : ∀ call, machine.TaskFollows (machine.serve call)
  unwind : ∀ label task, machine.unwind label = some task →
    machine.TaskFollows task

end Machine

namespace Pool

variable (machine : Machine Op Ret State Input Label Call Signal)

/-- Replace the task at a position by what is left of it and append the
tasks it has spawned. -/
def splice (tasks : List (Task Op Ret Label)) (index : Nat)
    (left spawned : List (Task Op Ret Label)) : List (Task Op Ret Label) :=
  tasks.take index ++ left ++ tasks.drop (index + 1) ++ spawned

/-- One event of the pool; `none` when the event cannot happen here. -/
def step? (pool : Pool Op Ret State Label) :
    Event Input Call Signal → Option (Pool Op Ret State Label)
  | .run index input =>
    match pool.tasks[index]? with
    | some ⟨label, .call op rest⟩ =>
      if machine.ready op pool.state then
        let (state, answer) := machine.exec op input pool.state
        let task : Task Op Ret Label :=
          ⟨machine.protocol.advance label op answer, rest answer⟩
        some
          { state := state
            tasks := splice pool.tasks index task.kept
              (machine.children op)
            history := ⟨label, op, answer⟩ :: pool.history }
      else none
    | _ => none
  | .unwind index =>
    match pool.tasks[index]? with
    | some task =>
      match machine.unwind task.label with
      | some handler =>
        some { pool with
          tasks := splice pool.tasks index handler.kept [] }
      | none => none
    | none => none
  | .arrive call =>
    some { pool with tasks := pool.tasks ++ (machine.serve call).kept }
  | .signal signal =>
    some { pool with state := machine.signal signal pool.state }
  | .restart =>
    some { pool with state := machine.restart pool.state, tasks := [] }

/-- The step an event takes from this pool meets the guard. -/
def Meets (guard : Guard Op Ret State Input Label Call)
    (pool : Pool Op Ret State Label) : Event Input Call Signal → Prop
  | .run index input => ∀ label op rest,
      pool.tasks[index]? = some ⟨label, .call op rest⟩ →
        guard.op pool.view label op input
  | .unwind index => ∀ task, pool.tasks[index]? = some task →
      guard.unwind pool.view task.label
  | .arrive call => guard.arrive pool.view call
  | .signal _ => True
  | .restart => guard.restart

/-- Runs all of whose steps meet the guard. -/
inductive Run (guard : Guard Op Ret State Input Label Call)
    (start : Pool Op Ret State Label) :
    List (Event Input Call Signal) → Pool Op Ret State Label → Prop where
  | nil : Run guard start [] start
  | snoc {events : List (Event Input Call Signal)}
      {event : Event Input Call Signal} {pool next : Pool Op Ret State Label} :
      Run guard start events pool →
      pool.Meets guard event →
      pool.step? machine event = some next →
      Run guard start (events ++ [event]) next

end Pool

theorem two_le_countP_split {kind : Label → Bool} {before after : List Label}
    {label member : Label} (acting : kind label = true)
    (alike : kind member = true) (other : member ∈ before ∨ member ∈ after) :
    2 ≤ (before ++ label :: after).countP kind := by
  have positive : 0 < (before ++ after).countP kind :=
    List.countP_pos_iff.mpr ⟨member, List.mem_append.mpr other, alike⟩
  rw [List.countP_append] at positive
  rw [List.countP_append, List.countP_cons_of_pos acting]
  omega

theorem two_le_countP {kind : Label → Bool} {labels : List Label}
    {first second : Label} (firstMember : first ∈ labels)
    (secondMember : second ∈ labels) (different : first ≠ second)
    (firstKind : kind first = true) (secondKind : kind second = true) :
    2 ≤ labels.countP kind := by
  obtain ⟨before, after, rfl⟩ := List.append_of_mem firstMember
  apply two_le_countP_split firstKind secondKind
  rcases List.mem_append.mp secondMember with left | right
  · exact Or.inl left
  · exact Or.inr ((List.mem_cons.mp right).resolve_left different.symm)

/-- One occurrence of a label gives way to the label its task has reached,
or disappears when the task has ended, and the spawned tasks join. -/
inductive Replaced (ended : Label → Prop) (label reached : Label)
    (spawned : List Label) : List Label → List Label → Prop where
  | kept (before after : List Label) :
      Replaced ended label reached spawned (before ++ label :: after)
        (before ++ reached :: after ++ spawned)
  | removed (before after : List Label) :
      ended reached →
      Replaced ended label reached spawned (before ++ label :: after)
        (before ++ after ++ spawned)

namespace Replaced

variable {ended : Label → Prop} {label reached : Label}
  {spawned labels next : List Label}

variable {member : Label}

section

variable (replaced : Replaced ended label reached spawned labels next)

include replaced

theorem label_mem :
    label ∈ labels := by
  cases replaced with
  | kept | removed =>
    simp

theorem mem (membership : member ∈ next) :
    member ∈ labels ∨ member = reached ∨ member ∈ spawned := by
  cases replaced with
  | kept | removed =>
    grind

theorem mem_or_two (membership : member ∈ next)
    (kind : Label → Bool) (acting : kind label = true)
    (alike : kind member = true) :
    member = reached ∨ member ∈ spawned ∨ 2 ≤ labels.countP kind := by
  have second := @two_le_countP_split _ kind
  cases replaced with
  | kept | removed =>
    grind

theorem mem_of_ne (membership : member ∈ labels) (other : member ≠ label) :
    member ∈ next := by
  cases replaced with
  | kept | removed =>
    grind

theorem reached_mem (running : ¬ ended reached) :
    reached ∈ next := by
  cases replaced with
  | kept before after => simp
  | removed before after hasEnded => exact absurd hasEnded running

theorem spawned_mem (membership : member ∈ spawned) : member ∈ next := by
  cases replaced with
  | kept | removed =>
    simp [membership]

end

theorem mem_alone (replaced : Replaced ended label reached [] labels next)
    (membership : member ∈ next) : member ∈ labels ∨ member = reached := by
  simpa using replaced.mem membership

theorem map {Trait : Type} {ended : Trait → Prop} {trait : Label → Trait}
    (replaced : Replaced (fun label => ended (trait label)) label reached
      spawned labels next) :
    Replaced ended (trait label) (trait reached) (spawned.map trait)
      (labels.map trait) (next.map trait) := by
  cases replaced with
  | kept before after =>
    simp only [List.map_append, List.map_cons]
    exact .kept _ _
  | removed before after hasEnded =>
    simp only [List.map_append, List.map_cons]
    exact .removed _ _ hasEnded

theorem toNat_eq_ite (value : Bool) :
    value.toNat = if value = true then 1 else 0 := by
  cases value <;> rfl

theorem countP (replaced : Replaced ended label reached spawned labels next)
    (kind : Label → Bool) (gone : ended reached → kind reached = false) :
    next.countP kind + (kind label).toNat =
      labels.countP kind + (kind reached).toNat + spawned.countP kind := by
  cases replaced with
  | kept before after =>
    simp only [List.countP_append, List.countP_cons, toNat_eq_ite]
    omega
  | removed before after hasEnded =>
    simp only [List.countP_append, List.countP_cons, toNat_eq_ite,
      gone hasEnded]
    simp
    omega

theorem countP_le (replaced : Replaced ended label reached spawned labels next)
    (kind : Label → Bool) :
    next.countP kind + (kind label).toNat ≤
      labels.countP kind + (kind reached).toNat + spawned.countP kind := by
  cases replaced with
  | kept | removed =>
    simp only [List.countP_append, List.countP_cons, toNat_eq_ite]
    omega

theorem countP_le_one (replaced : Replaced ended label reached [] labels next)
    {kind : Label → Bool} (before : labels.countP kind ≤ 1)
    (fresh : kind reached = true →
      kind label = true ∨ labels.countP kind = 0) :
    next.countP kind ≤ 1 := by
  have count := replaced.countP_le kind
  rw [List.countP_nil] at count
  cases now : kind reached with
  | false =>
    rw [now, Bool.toNat_false] at count
    omega
  | true =>
    rw [now, Bool.toNat_true] at count
    rcases fresh now with same | none
    · rw [same, Bool.toNat_true] at count
      omega
    · omega

end Replaced

theorem mem_arrives {labels left : List Label} {label fresh : Label}
    (joined : left = [fresh] ∨ left = []) (member : label ∈ labels ++ left) :
    label ∈ labels ∨ label = fresh := by
  rcases joined with rfl | rfl
  · simpa using member
  · simpa using Or.inl member

theorem countP_arrives {kind : Label → Bool} {fresh : Label}
    (labels : List Label) (foreign : kind fresh = false) {left : List Label}
    (joined : left = [fresh] ∨ left = []) :
    (labels ++ left).countP kind = labels.countP kind := by
  rcases joined with rfl | rfl <;> simp [foreign]

namespace View

variable (machine : Machine Op Ret State Input Label Call Signal)
  (guard : Guard Op Ret State Input Label Call)

/-- The steps of a view: an operation is any that the acting label allows,
and a task may leave the pool only under an ended label. -/
inductive Step : View Op Ret State Label → View Op Ret State Label → Prop where
  | op {view : View Op Ret State Label} {labels : List Label}
      {label : Label} {op : Op} {input : Input} :
      Replaced machine.ended label
        (machine.protocol.advance label op
          (machine.exec op input view.state).2)
        ((machine.children op).map Task.label) view.labels labels →
      machine.protocol.allows label op →
      machine.ready op view.state = true →
      guard.op view label op input →
      Step view
        { state := (machine.exec op input view.state).1
          labels
          history := ⟨label, op, (machine.exec op input view.state).2⟩ ::
            view.history }
  | unwind {view : View Op Ret State Label} {labels : List Label}
      {label : Label} {handler : Task Op Ret Label} :
      Replaced machine.ended label handler.label [] view.labels labels →
      machine.unwind label = some handler →
      guard.unwind view label →
      Step view { view with labels }
  | arrive {view : View Op Ret State Label} {left : List Label} (call : Call) :
      guard.arrive view call →
      (left = [(machine.serve call).label] ∨
        left = [] ∧ machine.ended (machine.serve call).label) →
      Step view { view with labels := view.labels ++ left }
  | signal {view : View Op Ret State Label} (signal : Signal) :
      Step view { view with state := machine.signal signal view.state }
  | restart {view : View Op Ret State Label} :
      guard.restart →
      Step view
        { view with state := machine.restart view.state, labels := [] }

/-- Views reached by steps that meet the guard. -/
inductive Reaches (start : View Op Ret State Label) :
    View Op Ret State Label → Prop where
  | refl : Reaches start start
  | tail {view next : View Op Ret State Label} :
      Reaches start view → Step machine guard view next → Reaches start next

variable {machine guard}

theorem Step.weaken {weaker : Guard Op Ret State Input Label Call}
    {view next : View Op Ret State Label} (step : Step machine guard view next)
    (op : ∀ label op input, guard.op view label op input →
      weaker.op view label op input)
    (unwind : ∀ label, guard.unwind view label → weaker.unwind view label)
    (arrive : ∀ call, guard.arrive view call → weaker.arrive view call)
    (restart : guard.restart → weaker.restart) :
    Step machine weaker view next := by
  cases step with
  | op replaced allowed ready permitted =>
    exact .op replaced allowed ready (op _ _ _ permitted)
  | unwind replaced handled permitted =>
    exact .unwind replaced handled (unwind _ permitted)
  | arrive call permitted joined =>
    exact .arrive call (arrive call permitted) joined
  | signal signal => exact .signal signal
  | restart permitted => exact .restart (restart permitted)

theorem Reaches.invariant {start view : View Op Ret State Label}
    (reached : Reaches machine guard start view)
    (Invariant : View Op Ret State Label → Prop)
    (initial : Invariant start)
    (kept : ∀ view next, Invariant view → Step machine guard view next →
      Invariant next) :
    Invariant view := by
  induction reached with
  | refl => exact initial
  | tail _ step induction => exact kept _ _ induction step

end View

variable {pool start : Pool Op Ret State Label}
  {events : List (Event Input Call Signal)}

variable {tasks : List (Task Op Ret Label)} {task : Task Op Ret Label}
  {index : Nat}

variable {event : Event Input Call Signal}

namespace Pool

variable {machine : Machine Op Ret State Input Label Call Signal}
  {guard : Guard Op Ret State Input Label Call}

private theorem kept_label (task : Task Op Ret Label)
    (follows : machine.TaskFollows task) :
    task.kept.map Task.label = [task.label] ∨
      task.kept.map Task.label = [] ∧ machine.ended task.label := by
  obtain ⟨label, code⟩ := task
  cases code with
  | done value => exact Or.inr ⟨rfl, follows⟩
  | call op rest => exact Or.inl rfl

theorem mem_kept {member : Task Op Ret Label}
    (membership : member ∈ task.kept) : member = task := by
  obtain ⟨label, code⟩ := task
  cases code with
  | done value => simp [Task.kept] at membership
  | call op rest => simpa [Task.kept] using membership

theorem mem_splice {spawned : List (Task Op Ret Label)}
    {left member : Task Op Ret Label}
    (membership : member ∈ splice tasks index left.kept spawned) :
    member ∈ tasks ∨ member = left ∨ member ∈ spawned := by
  simp only [splice, List.mem_append] at membership
  rcases membership with ((early | inside) | late) | new
  · exact Or.inl (List.mem_of_mem_take early)
  · exact Or.inr (Or.inl (mem_kept inside))
  · exact Or.inl (List.mem_of_mem_drop late)
  · exact Or.inr (Or.inr new)

theorem step?_run {next : Pool Op Ret State Label} {input : Input}
    (stepped : pool.step? machine (.run index input) = some next) :
    ∃ label op rest, pool.tasks[index]? = some ⟨label, .call op rest⟩ ∧
      machine.ready op pool.state = true := by
  simp only [step?] at stepped
  split at stepped
  case h_2 => cases stepped
  case h_1 label op rest found =>
    split at stepped
    case isFalse => cases stepped
    case isTrue ready => exact ⟨label, op, rest, found, ready⟩

theorem step?_unwind {next : Pool Op Ret State Label}
    (stepped : pool.step? machine (.unwind index) = some next) :
    ∃ task handler, pool.tasks[index]? = some task ∧
      machine.unwind task.label = some handler ∧
      next = { pool with
        tasks := splice pool.tasks index handler.kept [] } := by
  simp only [step?] at stepped
  split at stepped
  case h_2 => cases stepped
  case h_1 task found =>
    split at stepped
    case h_2 => cases stepped
    case h_1 handler handled =>
      exact ⟨task, handler, found, handled, (Option.some.inj stepped).symm⟩

private theorem labels_replaced
    {left : Task Op Ret Label} (spawned : List (Task Op Ret Label))
    (found : tasks[index]? = some task) (follows : machine.TaskFollows left) :
    Replaced machine.ended task.label left.label (spawned.map Task.label)
      (tasks.map Task.label)
      ((splice tasks index left.kept spawned).map Task.label) := by
  obtain ⟨bound, value⟩ := List.getElem?_eq_some_iff.mp found
  have decomposed :
      tasks = tasks.take index ++ task :: tasks.drop (index + 1) := by
    rw [← value, List.getElem_cons_drop, List.take_append_drop]
  have labels := congrArg (List.map Task.label) decomposed
  rw [List.map_append, List.map_cons] at labels
  rw [labels]
  rcases kept_label left follows with kept | ⟨removed, hasEnded⟩
  · simp only [splice, List.map_append, kept]
    rw [List.append_assoc _ [left.label], List.singleton_append]
    exact Replaced.kept _ _
  · simp only [splice, List.map_append, removed, List.append_nil]
    exact Replaced.removed _ _ hasEnded

/-- What a step of one conforming task does to the pool. -/
theorem run_view {next : Pool Op Ret State Label}
    {input : Input} {label : Label} {op : Op}
    {rest : Ret op → Program Op Ret Unit}
    (found : pool.tasks[index]? = some ⟨label, .call op rest⟩)
    (follows : machine.TaskFollows ⟨label, .call op rest⟩)
    (stepped : pool.step? machine (.run index input) = some next) :
    machine.ready op pool.state = true ∧
      Replaced machine.ended label
        (machine.protocol.advance label op
          (machine.exec op input pool.state).2)
        ((machine.children op).map Task.label) pool.view.labels
        next.view.labels ∧
      next =
        { state := (machine.exec op input pool.state).1
          tasks := splice pool.tasks index
            (Task.kept ⟨machine.protocol.advance label op
              (machine.exec op input pool.state).2,
              rest (machine.exec op input pool.state).2⟩)
            (machine.children op)
          history := ⟨label, op, (machine.exec op input pool.state).2⟩ ::
            pool.history } := by
  obtain ⟨_, _, _, same, ready⟩ := step?_run stepped
  cases found.symm.trans same
  simp only [step?, found, ready, if_true] at stepped
  cases stepped
  have later : machine.TaskFollows
      ⟨_, rest (machine.exec op input pool.state).2⟩ := follows.2 _
  exact ⟨ready, labels_replaced _ found later, rfl⟩

/-- A step of a pool of conforming tasks is a step of its view, and the
tasks conform afterwards. -/
theorem step_view (sound : machine.Sound)
    {next : Pool Op Ret State Label}
    (conform : ∀ task ∈ pool.tasks, machine.TaskFollows task)
    (meets : pool.Meets guard event)
    (stepped : pool.step? machine event = some next) :
    View.Step machine guard pool.view next.view ∧
      ∀ task ∈ next.tasks, machine.TaskFollows task := by
  cases event with
  | run index input =>
    obtain ⟨label, op, rest, found, _⟩ := step?_run stepped
    have follows := conform _ (List.mem_of_getElem? found)
    obtain ⟨ready, replaced, rfl⟩ := run_view found follows stepped
    constructor
    · exact View.Step.op replaced follows.1 ready (meets label op rest found)
    · intro task membership
      rcases mem_splice membership with old | rfl | spawned
      · exact conform task old
      · exact follows.2 _
      · exact sound.children op task spawned
  | unwind index =>
    obtain ⟨task, handler, found, handled, rfl⟩ := step?_unwind stepped
    have follows := sound.unwind _ _ handled
    constructor
    · exact View.Step.unwind (labels_replaced [] found follows) handled
        (meets task found)
    · intro member membership
      rcases mem_splice membership with old | rfl | spawned
      · exact conform member old
      · exact follows
      · cases spawned
  | arrive call =>
    cases stepped
    have follows := sound.serve call
    constructor
    · have step : View.Step machine guard pool.view _ :=
        View.Step.arrive call meets
          (kept_label (machine.serve call) follows)
      simpa [view] using step
    · intro member membership
      rcases List.mem_append.mp membership with old | new
      · exact conform member old
      · rw [mem_kept new]
        exact follows
  | signal signal =>
    cases stepped
    exact ⟨View.Step.signal signal, conform⟩
  | restart =>
    cases stepped
    exact ⟨View.Step.restart meets, by simp⟩

theorem Run.reaches (sound : machine.Sound)
    (run : Run machine guard start events pool)
    (conform : ∀ task ∈ start.tasks, machine.TaskFollows task) :
    View.Reaches machine guard start.view pool.view ∧
      ∀ task ∈ pool.tasks, machine.TaskFollows task := by
  induction run with
  | nil => exact ⟨.refl, conform⟩
  | snoc _ meets stepped induction =>
    obtain ⟨reached, conforms⟩ := induction
    obtain ⟨step, conformsNext⟩ := step_view sound conforms meets stepped
    exact ⟨reached.tail step, conformsNext⟩

end Pool

namespace Pool

variable {machine : Machine Op Ret State Input Label Call Signal}
  {guard : Guard Op Ret State Input Label Call}

theorem Run.cons {start next pool : Pool Op Ret State Label}
    {event : Event Input Call Signal}
    {events : List (Event Input Call Signal)}
    (meets : start.Meets guard event)
    (stepped : start.step? machine event = some next)
    (run : Run machine guard next events pool) :
    Run machine guard start (event :: events) pool := by
  induction run with
  | nil =>
    exact Run.snoc Run.nil meets stepped
  | snoc _ laterMeets later induction =>
    exact Run.snoc induction laterMeets later

theorem Run.append {middle : Pool Op Ret State Label}
    {first second : List (Event Input Call Signal)}
    (run : Run machine guard start first middle)
    (later : Run machine guard middle second pool) :
    Run machine guard start (first ++ second) pool := by
  induction later with
  | nil =>
    rw [List.append_nil]
    exact run
  | snoc _ meets stepped induction =>
    rw [← List.append_assoc]
    exact Run.snoc induction meets stepped

private theorem kept_of_busy (follows : machine.TaskFollows task)
    (busy : ¬ machine.ended task.label) : task.kept = [task] := by
  obtain ⟨label, code⟩ := task
  cases code with
  | done value => exact absurd follows busy
  | call op rest => rfl

private theorem splice_self
    (bound : index < tasks.length) (task : Task Op Ret Label)
    (spawned : List (Task Op Ret Label)) :
    (splice tasks index [task] spawned)[index]? = some task := by
  have length : (tasks.take index).length = index :=
    List.length_take_of_le (Nat.le_of_lt bound)
  simp only [splice, List.append_assoc]
  rw [List.getElem?_append_right (Nat.le_of_eq length), length]
  simp

/-- A task that runs on its own reaches a goal, if it cannot end before and
each of its steps is possible and leads to the goal or leaves it waiting. -/
theorem Run.solo {input : Input} {Goal : Pool Op Ret State Label → Prop}
    {Waiting : Label → Prop}
    (busy : ∀ label, Waiting label → ¬ machine.ended label)
    (enabled : ∀ (pool : Pool Op Ret State Label) label op, Waiting label →
      machine.protocol.allows label op →
      machine.ready op pool.state = true ∧ guard.op pool.view label op input)
    (moves : ∀ (pool next : Pool Op Ret State Label) index label op rest,
      Waiting label →
      pool.tasks[index]? = some ⟨label, .call op rest⟩ →
      machine.TaskFollows ⟨label, .call op rest⟩ →
      pool.step? machine (.run index input) = some next →
      Goal next ∨ Waiting (machine.protocol.advance label op
        (machine.exec op input pool.state).2))
    {index : Nat} (code : Program Op Ret Unit) :
    ∀ {pool : Pool Op Ret State Label} {label : Label}, Waiting label →
      pool.tasks[index]? = some ⟨label, code⟩ →
      machine.TaskFollows ⟨label, code⟩ →
      ∃ steps next, Run machine guard pool
        (List.replicate steps (.run index input)) next ∧ Goal next := by
  induction code with
  | done value =>
    intro pool label waiting _ follows
    exact absurd follows (busy label waiting)
  | call op rest induction =>
    intro pool label waiting found follows
    obtain ⟨ready, permitted⟩ := enabled pool label op waiting follows.1
    have possible : ∃ next, pool.step? machine (.run index input) =
        some next := by
      simp [step?, found, ready]
    obtain ⟨next, stepped⟩ := possible
    have meets : pool.Meets guard
        (.run index input : Event Input Call Signal) := by
      intro other otherOp otherRest same
      rw [found] at same
      cases same
      exact permitted
    rcases moves pool next index label op rest waiting found follows
        stepped with goal | still
    · exact ⟨1, next, Run.cons meets stepped Run.nil, goal⟩
    · have later : machine.TaskFollows
          ⟨_, rest (machine.exec op input pool.state).2⟩ := follows.2 _
      have located : next.tasks[index]? = some
          ⟨machine.protocol.advance label op
            (machine.exec op input pool.state).2,
            rest (machine.exec op input pool.state).2⟩ := by
        rw [(run_view found follows stepped).2.2]
        simp only [kept_of_busy later (busy _ still)]
        exact splice_self (List.getElem?_eq_some_iff.mp found).1 _ _
      obtain ⟨steps, last, run, goal⟩ :=
        induction _ still located later
      exact ⟨steps + 1, last, Run.cons meets stepped run, goal⟩

end Pool

/-- Guards that can be evaluated at a concrete step.  Most of them ask for
something only at operations. -/
class Guard.Checkable (guard : Guard Op Ret State Input Label Call) where
  op : ∀ view label op input, Decidable (guard.op view label op input)
  unwind : ∀ view label, Decidable (guard.unwind view label) := by
    exact fun _ _ => .isTrue trivial
  arrive : ∀ view call, Decidable (guard.arrive view call) := by
    exact fun _ _ => .isTrue trivial
  restart : Decidable guard.restart := by exact .isTrue trivial

/-- Any step at all. -/
def Guard.free : Guard Op Ret State Input Label Call where
  op _ _ _ _ := True
  unwind _ _ := True
  arrive _ _ := True
  restart := True

instance : (Guard.free : Guard Op Ret State Input Label Call).Checkable where
  op _ _ _ _ := .isTrue trivial

namespace Pool

variable (machine : Machine Op Ret State Input Label Call Signal)
  (guard : Guard Op Ret State Input Label Call)

/-- Evaluate the guard at the step an event takes. -/
def check [checkable : guard.Checkable] (pool : Pool Op Ret State Label) :
    Event Input Call Signal → Bool
  | .run index input =>
    match pool.tasks[index]? with
    | some ⟨label, .call op _⟩ =>
      @decide _ (checkable.op pool.view label op input)
    | _ => true
  | .unwind index =>
    match pool.tasks[index]? with
    | some task => @decide _ (checkable.unwind pool.view task.label)
    | none => true
  | .arrive call => @decide _ (checkable.arrive pool.view call)
  | .signal _ => true
  | .restart => @decide _ checkable.restart

theorem meets_of_check [checkable : guard.Checkable]
    (checked : pool.check guard event = true) :
    pool.Meets guard event := by
  cases event with
  | run index input =>
    intro label op rest found
    simp only [check, found] at checked
    exact @of_decide_eq_true _ (checkable.op _ _ _ _) checked
  | unwind index =>
    intro task found
    simp only [check, found] at checked
    exact @of_decide_eq_true _ (checkable.unwind _ _) checked
  | arrive call =>
    exact @of_decide_eq_true _ (checkable.arrive _ _) checked
  | signal signal => trivial
  | restart => exact @of_decide_eq_true _ checkable.restart checked

/-- The run that a list of events describes, if every step is possible and
meets the guard. -/
def run? [guard.Checkable] (pool : Pool Op Ret State Label) :
    List (Event Input Call Signal) → Option (Pool Op Ret State Label)
  | [] => some pool
  | event :: events =>
    match pool.check guard event with
    | true => (pool.step? machine event).bind fun next => next.run? events
    | false => none

variable {machine guard}

theorem Run.of_run? [guard.Checkable]
    (ran : start.run? machine guard events = some pool) :
    Run machine guard start events pool := by
  induction events generalizing start with
  | nil =>
    cases ran
    exact Run.nil
  | cons event events induction =>
    simp only [run?] at ran
    split at ran
    · rename_i checked
      obtain ⟨next, stepped, later⟩ := Option.bind_eq_some_iff.mp ran
      exact Run.cons (meets_of_check guard checked) stepped (induction later)
    · cases ran

theorem Run.exists_of_any [guard.Checkable]
    {property : Pool Op Ret State Label → Bool}
    (found : (start.run? machine guard events).any property = true) :
    ∃ pool, Run machine guard start events pool ∧ property pool = true := by
  cases ran : start.run? machine guard events with
  | none => simp [ran] at found
  | some pool => exact ⟨pool, Run.of_run? ran, by simpa [ran] using found⟩

theorem Run.exists_checked [guard.Checkable]
    (Checked : Pool Op Ret State Label → Prop) [DecidablePred Checked]
    {Claim : Pool Op Ret State Label → Prop}
    (found : (start.run? machine guard events).any
      (fun pool => decide (Checked pool)) = true)
    (claims : ∀ pool, Run machine guard start events pool → Checked pool →
      Claim pool) :
    ∃ pool, Run machine guard start events pool ∧ Claim pool := by
  obtain ⟨pool, run, checked⟩ := Run.exists_of_any found
  exact ⟨pool, run, claims pool run (of_decide_eq_true checked)⟩

end Pool

end

end OpenOxide.Concurrency
