import Mathlib.Logic.Basic

/-!
# Programs as sequences of atomic operations

A task is written against a signature of operations: each operation is
executed atomically by whatever runs the task, and answers with a value of
the type the signature assigns to it.  Between two operations any other task
may run, so the operations are exactly the points at which a concurrent
program can be interrupted.

A protocol labels the points of a program.  It says which operations a task
may perform under its current label and how an answer moves the label on.
`Follows` is the statement that a program respects a protocol whatever
answers it receives; it composes along `bind`, so one structural proof for
each program is enough for every schedule.  `Only` is the special case of
programs whose operations leave the label where it is.
-/

namespace OpenOxide.Concurrency

/-- Code that performs operations `op : Op` and waits for answers in
`Ret op`, ending with a value. -/
inductive Program (Op : Type) (Ret : Op → Type) (α : Type) : Type where
  | done (value : α) : Program Op Ret α
  | call (op : Op) (rest : Ret op → Program Op Ret α) : Program Op Ret α

namespace Program

variable {Op : Type} {Ret : Op → Type} {α β : Type}

def bind : Program Op Ret α → (α → Program Op Ret β) → Program Op Ret β
  | .done value, next => next value
  | .call op rest, next => .call op fun answer => (rest answer).bind next

instance : Monad (Program Op Ret) where
  pure := .done
  bind := bind

/-- Perform one operation and return its answer. -/
def perform (op : Op) : Program Op Ret (Ret op) :=
  .call op .done

/-- Run a body for every element of a list, in order. -/
def forEach {γ : Type} (body : γ → Program Op Ret Unit) :
    List γ → Program Op Ret Unit
  | [] => .done ()
  | first :: others => (body first).bind fun _ => forEach body others

/-- Every operation the program can perform satisfies a condition. -/
def Only (allowed : Op → Prop) : Program Op Ret α → Prop
  | .done _ => True
  | .call op rest => allowed op ∧ ∀ answer, (rest answer).Only allowed

section

variable {allowed : Op → Prop} {ε : Type}

@[simp] theorem only_pure {value : α} :
    (pure value : Program Op Ret α).Only allowed :=
  trivial

theorem only_perform {op : Op} (permitted : allowed op) :
    (perform op : Program Op Ret (Ret op)).Only allowed :=
  ⟨permitted, fun _ => trivial⟩

theorem Only.bind {first : Program Op Ret α} {next : α → Program Op Ret β}
    (before : first.Only allowed) (after : ∀ value, (next value).Only allowed) :
    (first >>= next).Only allowed := by
  induction first with
  | done value => exact after value
  | call op rest induction =>
    exact ⟨before.1, fun answer => induction answer (before.2 answer)⟩

theorem Only.passing {first : Program Op Ret (Except ε α)}
    {next : Except ε α → Program Op Ret β} (before : first.Only allowed)
    (failed : ∀ failure, (next (.error failure)).Only allowed)
    (passed : ∀ value, (next (.ok value)).Only allowed) :
    (first >>= next).Only allowed := by
  refine before.bind fun outcome => ?_
  cases outcome with
  | ok value => exact passed value
  | error failure => exact failed failure

theorem Only.andThen {first : ExceptT ε (Program Op Ret) α}
    {next : α → ExceptT ε (Program Op Ret) β}
    (before : first.run.Only allowed)
    (after : ∀ value, (next value).run.Only allowed) :
    (first >>= next).run.Only allowed :=
  before.passing (fun _ => trivial) after

theorem Only.lift {program : Program Op Ret α} (only : program.Only allowed) :
    (ExceptT.lift program : ExceptT ε (Program Op Ret) α).run.Only allowed :=
  Only.bind only fun _ => trivial

theorem Only.weaken {program : Program Op Ret α} {wider : Op → Prop}
    (only : program.Only allowed) (weaker : ∀ op, allowed op → wider op) :
    program.Only wider := by
  induction program with
  | done value => trivial
  | call op rest induction =>
    exact ⟨weaker op only.1, fun answer => induction answer (only.2 answer)⟩

theorem Only.forEach {γ : Type} {body : γ → Program Op Ret Unit}
    (each : ∀ element, (body element).Only allowed) (elements : List γ) :
    (Program.forEach body elements).Only allowed := by
  induction elements with
  | nil => trivial
  | cons first others induction =>
    exact Only.bind (each first) fun _ => induction

end

end Program

/-- Which operations a task may perform under a label, and the label after
each answer. -/
structure Protocol (Op : Type) (Ret : Op → Type) (Label : Type) where
  allows : Label → Op → Prop
  advance : Label → (op : Op) → Ret op → Label

namespace Protocol

variable {Op : Type} {Ret : Op → Type} {Label α β ε : Type}
  (protocol : Protocol Op Ret Label)

/-- Every operation of the program is allowed under the label reached so
far, and the program ends with a value and a label related by `ends`. -/
def Follows : Label → Program Op Ret α → (α → Label → Prop) → Prop
  | label, .done value, ends => ends value label
  | label, .call op rest, ends =>
    protocol.allows label op ∧
      ∀ answer, Follows (protocol.advance label op answer) (rest answer) ends

@[simp] theorem follows_bind
    {label : Label} {first : Program Op Ret α} {next : α → Program Op Ret β}
    {ends : β → Label → Prop} :
    protocol.Follows label (first >>= next) ends ↔
      protocol.Follows label first fun value reached =>
        protocol.Follows reached (next value) ends := by
  induction first generalizing label with
  | done value => exact Iff.rfl
  | call op rest induction =>
    change _ ∧ (∀ answer, protocol.Follows _ (rest answer >>= next) ends) ↔
      _ ∧ ∀ answer, _
    simp only [induction]

variable {label : Label}

theorem Follows.weaken
    {protocol : Protocol Op Ret Label}
    {program : Program Op Ret α} {strong weak : α → Label → Prop}
    (follows : protocol.Follows label program strong)
    (implied : ∀ value reached, strong value reached → weak value reached) :
    protocol.Follows label program weak := by
  induction program generalizing label with
  | done value => exact implied value label follows
  | call op rest induction =>
    obtain ⟨allowed, later⟩ := follows
    exact ⟨allowed, fun answer => induction answer (later answer)⟩

variable {ends : Except ε β → Label → Prop}

/-- Sequencing of fallible programs: an error ends the whole. -/
theorem follows_andThen
    {first : ExceptT ε (Program Op Ret) α}
    {next : α → ExceptT ε (Program Op Ret) β} :
    protocol.Follows label (first >>= next).run ends ↔
      protocol.Follows label first.run fun outcome reached =>
        match outcome with
        | .ok value => protocol.Follows reached (next value).run ends
        | .error failure => ends (.error failure) reached := by
  change protocol.Follows label (first.run >>= _) ends ↔ _
  rw [follows_bind]
  constructor
  · intro follows
    apply follows.weaken
    rintro (failure | value) reached later
    · exact later
    · exact later
  · intro follows
    apply follows.weaken
    rintro (failure | value) reached later
    · exact later
    · exact later

theorem follows_lift
    {program : Program Op Ret α}
    {ends : Except ε α → Label → Prop} :
    protocol.Follows label
        (ExceptT.lift program : ExceptT ε (Program Op Ret) α).run ends ↔
      protocol.Follows label program fun value reached =>
        ends (.ok value) reached :=
  protocol.follows_bind

theorem follows_liftThen
    {first : Program Op Ret α}
    {next : α → ExceptT ε (Program Op Ret) β} :
    protocol.Follows label (ExceptT.lift first >>= next).run ends ↔
      protocol.Follows label first fun value reached =>
        protocol.Follows reached (next value).run ends :=
  protocol.follows_andThen.trans protocol.follows_lift

theorem follows_only {program : Program Op Ret α}
    {calm : Op → Prop} (only : program.Only calm)
    (allowed : ∀ op, calm op → protocol.allows label op)
    (kept : ∀ op answer, calm op → protocol.advance label op answer = label) :
    protocol.Follows label program fun _ reached => reached = label := by
  induction program with
  | done value => rfl
  | call op rest induction =>
    refine ⟨allowed op only.1, fun answer => ?_⟩
    rw [kept op answer only.1]
    exact induction answer (only.2 answer)

theorem follows_forEach {γ : Type}
    {body : γ → Program Op Ret Unit} {elements : List γ}
    (each : ∀ element ∈ elements,
      protocol.Follows label (body element) fun _ reached => reached = label) :
    protocol.Follows label (Program.forEach body elements)
      fun _ reached => reached = label := by
  induction elements with
  | nil => exact rfl
  | cons first others induction =>
    have later := induction fun element member =>
      each element (List.mem_cons_of_mem first member)
    change protocol.Follows label
      (body first >>= fun _ => Program.forEach body others) _
    rw [follows_bind]
    apply (each first List.mem_cons_self).weaken
    rintro _ reached rfl
    exact later

end Protocol

end OpenOxide.Concurrency
