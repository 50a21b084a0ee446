import OpenOxide.Concurrency.Pool

/-!
# Machines with further operations

A machine is extended by operations of its own kind on a larger state.  A label of
the extended machine is a label of the machine with a stage; the old operations move
the label and keep the stage, the new ones move the stage and keep the label.  A
task may use both: old code is embedded in new code, and what it follows it still
follows (`follows_embed`).
-/

namespace OpenOxide.Concurrency

variable {Op XOp : Type} {Ret : Op → Type} {XRet : XOp → Type}
  {State Store Input Label Stage Call XCall Signal α : Type}

/-- The answers to two kinds of operations. -/
@[reducible] def Both (Ret : Op → Type) (XRet : XOp → Type) : Op ⊕ XOp → Type
  | .inl op => Ret op
  | .inr op => XRet op

def Program.embed : Program Op Ret α → Program (Op ⊕ XOp) (Both Ret XRet) α
  | .done value => .done value
  | .call op rest => .call (.inl op) fun answer => (rest answer).embed

/-- The operations by which a machine is extended, and the tasks that use them. -/
structure Extension (Op : Type) (Ret : Op → Type) (XOp : Type)
    (XRet : XOp → Type) (State Store Input Label Stage XCall : Type) where
  idle : Stage
  allows : Stage → XOp → Prop
  advance : Stage → (op : XOp) → XRet op → Stage
  exec : (op : XOp) → Input → State × Store → (State × Store) × XRet op
  serve : XCall → Task (Op ⊕ XOp) (Both Ret XRet) (Label × Stage)

def Task.embed (stage : Stage) (task : Task Op Ret Label) :
    Task (Op ⊕ XOp) (Both Ret XRet) (Label × Stage) :=
  ⟨(task.label, stage), task.code.embed⟩

namespace Machine

variable (machine : Machine Op Ret State Input Label Call Signal)
  (extension : Extension Op Ret XOp XRet State Store Input Label Stage XCall)

def extend : Machine (Op ⊕ XOp) (Both Ret XRet) (State × Store) Input
    (Label × Stage) (Call ⊕ XCall) Signal where
  protocol :=
    { allows label op :=
        match op with
        | .inl op => machine.protocol.allows label.1 op
        | .inr op => extension.allows label.2 op
      advance label op :=
        match op with
        | .inl op => fun answer =>
          (machine.protocol.advance label.1 op answer, label.2)
        | .inr op => fun answer =>
          (label.1, extension.advance label.2 op answer) }
  ready op state :=
    match op with
    | .inl op => machine.ready op state.1
    | .inr _ => true
  exec op input state :=
    match op with
    | .inl op =>
      (((machine.exec op input state.1).1, state.2),
        (machine.exec op input state.1).2)
    | .inr op => extension.exec op input state
  children
    | .inl op => (machine.children op).map (Task.embed extension.idle)
    | .inr _ => []
  serve
    | .inl call => (machine.serve call).embed extension.idle
    | .inr call => extension.serve call
  unwind label := (machine.unwind label.1).map (Task.embed extension.idle)
  signal signal state := (machine.signal signal state.1, state.2)
  restart state := (machine.restart state.1, state.2)
  ended label := machine.ended label.1

variable {machine extension}

theorem follows_embed {program : Program Op Ret α} {label : Label}
    {ends : α → Label → Prop}
    (follows : machine.protocol.Follows label program ends) (stage : Stage) :
    (machine.extend extension).protocol.Follows (label, stage) program.embed
      fun value reached => ends value reached.1 ∧ reached.2 = stage := by
  induction program generalizing label with
  | done value => exact ⟨follows, rfl⟩
  | call op rest induction =>
    obtain ⟨allowed, later⟩ := follows
    exact ⟨allowed, fun answer => induction answer (later answer)⟩

theorem taskFollows_embed {task : Task Op Ret Label}
    (follows : machine.TaskFollows task) (stage : Stage) :
    (machine.extend extension).TaskFollows (task.embed stage) :=
  (follows_embed follows stage).weaken fun _ _ ends => ends.1

theorem extend_sound (sound : machine.Sound)
    (served : ∀ call, (machine.extend extension).TaskFollows
      (extension.serve call)) :
    (machine.extend extension).Sound where
  children op task created := by
    cases op with
    | inl op =>
      obtain ⟨origin, spawned, rfl⟩ := List.mem_map.mp created
      exact taskFollows_embed (sound.children op origin spawned) _
    | inr op => cases created
  serve call := by
    cases call with
    | inl call => exact taskFollows_embed (sound.serve call) _
    | inr call => exact served call
  unwind label task handled := by
    obtain ⟨handler, caught, rfl⟩ := Option.map_eq_some_iff.mp handled
    exact taskFollows_embed (sound.unwind _ _ caught) _

end Machine

def Event.embed : Event Input Call Signal → Event Input (Call ⊕ XCall) Signal
  | .run index input => .run index input
  | .unwind index => .unwind index
  | .arrive call => .arrive (.inl call)
  | .signal sent => .signal sent
  | .restart => .restart

def Entry.base (entry : Entry (Op ⊕ XOp) (Both Ret XRet) (Label × Stage)) :
    Option (Entry Op Ret Label) :=
  match entry with
  | ⟨label, .inl op, answer⟩ => some ⟨label.1, op, answer⟩
  | ⟨_, .inr _, _⟩ => none

/-- What a view shows of the machine that was extended. -/
def View.base
    (view : View (Op ⊕ XOp) (Both Ret XRet) (State × Store) (Label × Stage)) :
    View Op Ret State Label :=
  ⟨view.state.1, view.labels.map Prod.fst, view.history.filterMap Entry.base⟩

section Steps

variable {machine : Machine Op Ret State Input Label Call Signal}
  {extension : Extension Op Ret XOp XRet State Store Input Label Stage XCall}

theorem Replaced.base {label reached : Label × Stage} {op : Op}
    {labels next : List (Label × Stage)}
    (replaced : Replaced (machine.extend extension).ended label reached
      (((machine.extend extension).children (.inl op)).map Task.label)
      labels next) :
    Replaced machine.ended label.1 reached.1
      ((machine.children op).map Task.label) (labels.map Prod.fst)
      (next.map Prod.fst) := by
  have forgotten : Replaced machine.ended _ _ _ _ _ :=
    @Replaced.map _ _ _ _ _ _ _ machine.ended Prod.fst replaced
  have spawned : ((((machine.extend extension).children (.inl op)).map
      Task.label).map Prod.fst) = (machine.children op).map Task.label := by
    change ((List.map _ _).map Task.label).map Prod.fst = _
    simp [Function.comp_def, Task.embed]
  rw [spawned] at forgotten
  exact forgotten

theorem Replaced.stage {label : Label × Stage} {reached : Label} {op : Op}
    {labels next : List (Label × Stage)}
    (replaced : Replaced (machine.extend extension).ended label
      (reached, label.2)
      (((machine.extend extension).children (.inl op)).map Task.label)
      labels next)
    {member : Label × Stage} (membership : member ∈ next) :
    member.2 = extension.idle ∨ ∃ old ∈ labels, old.2 = member.2 := by
  rcases replaced.mem membership with old | rfl | spawned
  · exact .inr ⟨member, old, rfl⟩
  · exact .inr ⟨label, replaced.label_mem, rfl⟩
  · obtain ⟨task, created, rfl⟩ := List.mem_map.mp spawned
    obtain ⟨origin, _, rfl⟩ := List.mem_map.mp created
    exact .inl rfl

variable
  {guard : Guard (Op ⊕ XOp) (Both Ret XRet) (State × Store) Input
    (Label × Stage) (Call ⊕ XCall)}
  {inner : Guard Op Ret State Input Label Call}
  {view next : View (Op ⊕ XOp) (Both Ret XRet) (State × Store) (Label × Stage)}

/-- Whatever a guard permits the old operations in a view, the inner guard
permits them. -/
structure Guard.Contains
    (guard : Guard (Op ⊕ XOp) (Both Ret XRet) (State × Store) Input
      (Label × Stage) (Call ⊕ XCall))
    (inner : Guard Op Ret State Input Label Call)
    (view : View (Op ⊕ XOp) (Both Ret XRet) (State × Store) (Label × Stage)) :
    Prop where
  op : ∀ label op input, guard.op view label (.inl op) input →
    inner.op view.base label.1 op input
  unwind : ∀ label, guard.unwind view label → inner.unwind view.base label.1
  arrive : ∀ call, guard.arrive view (.inl call) → inner.arrive view.base call
  restart : guard.restart → inner.restart

/-- Everything a step of the extended machine can be: a step of the machine
inside, which leaves the stages alone; a new operation; a new call. -/
inductive View.Extended
    (machine : Machine Op Ret State Input Label Call Signal)
    (extension : Extension Op Ret XOp XRet State Store Input Label Stage XCall)
    (guard : Guard (Op ⊕ XOp) (Both Ret XRet) (State × Store) Input
      (Label × Stage) (Call ⊕ XCall))
    (inner : Guard Op Ret State Input Label Call)
    (view next : View (Op ⊕ XOp) (Both Ret XRet) (State × Store)
      (Label × Stage)) : Prop where
  | inside (step : View.Step machine inner view.base next.base)
      (stages : ∀ member ∈ next.labels, member.2 = extension.idle ∨
        ∃ old ∈ view.labels, old.2 = member.2)
  | performs (label : Label × Stage) (op : XOp) (input : Input)
      (allowed : extension.allows label.2 op)
      (permitted : guard.op view label (.inr op) input)
      (state : next.state = (extension.exec op input view.state).1)
      (turns : Replaced (machine.extend extension).ended label
        (label.1, extension.advance label.2 op
          (extension.exec op input view.state).2) []
        view.labels next.labels)
  | joins (call : XCall) (state : next.state = view.state)
      (labels : next.labels = view.labels ∨
        next.labels = view.labels ++ [(extension.serve call).label])

theorem View.Step.extended (contains : guard.Contains inner view)
    (step : View.Step (machine.extend extension) guard view next) :
    View.Extended machine extension guard inner view next := by
  cases step with
  | @op labels label op input replaced allowed ready permitted =>
    cases op with
    | inl op =>
      refine .inside ?_ fun member membership => replaced.stage membership
      exact .op replaced.base allowed ready
        (contains.op label op input permitted)
    | inr op => exact .performs label op input allowed permitted rfl replaced
  | @unwind labels label handler replaced handled permitted =>
    obtain ⟨inside, caught, rfl⟩ := Option.map_eq_some_iff.mp handled
    refine .inside ?_ ?_
    · exact .unwind (@Replaced.map _ _ _ _ _ _ _ machine.ended Prod.fst replaced)
        caught (contains.unwind label permitted)
    · intro member membership
      rcases replaced.mem membership with old | rfl | new
      · exact .inr ⟨member, old, rfl⟩
      · exact .inl rfl
      · cases new
  | @arrive left call permitted joined =>
    cases call with
    | inl call =>
      have step : View.Step machine inner view.base
          { view.base with
            labels := view.base.labels ++ left.map Prod.fst } := by
        refine .arrive call (contains.arrive call permitted) ?_
        rcases joined with rfl | ⟨rfl, hasEnded⟩
        · exact .inl rfl
        · exact .inr ⟨rfl, hasEnded⟩
      refine .inside ?_ ?_
      · simpa [View.base] using step
      · intro member membership
        rcases mem_arrives (joined.imp_right And.left) membership with
          old | rfl
        · exact .inr ⟨member, old, rfl⟩
        · exact .inl rfl
    | inr call =>
      refine .joins call rfl ?_
      rcases joined with rfl | ⟨rfl, _⟩
      · exact .inr rfl
      · exact .inl (List.append_nil _)
  | signal signal =>
    exact .inside (.signal signal)
      fun member membership => .inr ⟨member, membership, rfl⟩
  | restart permitted =>
    refine .inside (.restart (contains.restart permitted)) ?_
    intro member membership
    cases membership

end Steps

end OpenOxide.Concurrency
