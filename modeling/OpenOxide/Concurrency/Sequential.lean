import OpenOxide.Concurrency.Program

/-!
# Programs that run alone

The meaning of a program when no other task interferes: its operations are
executed one after the other, each on the state the last one left.

Two rules carry the reasoning.  A relation that every operation of a program
keeps is kept by the whole run (`eval_only`).  A fallible program that starts
with a chain of checks comes past them under the conjunction of their
conditions, and fails without harm otherwise (`Leads`).
-/

namespace OpenOxide.Concurrency

namespace Program

variable {Op : Type} {Ret : Op → Type} {State α β ε : Type}
  (exec : (op : Op) → State → State × Ret op)

/-- Run a program from a state. -/
def eval : Program Op Ret α → State → State × α
  | .done value, state => (state, value)
  | .call op rest, state =>
    (rest (exec op state).2).eval (exec op state).1

@[simp] theorem eval_pure (value : α) (state : State) :
    (pure value : Program Op Ret α).eval exec state = (state, value) :=
  rfl

@[simp] theorem eval_perform (op : Op) (state : State) :
    (perform op : Program Op Ret (Ret op)).eval exec state =
      exec op state :=
  rfl

@[simp] theorem eval_bind (first : Program Op Ret α)
    (next : α → Program Op Ret β) (state : State) :
    (first >>= next).eval exec state =
      (next (first.eval exec state).2).eval exec
        (first.eval exec state).1 := by
  induction first generalizing state with
  | done value => rfl
  | call op rest induction => exact induction _ _

variable {exec} {state reached : State}

theorem eval_andThen_ok {first : ExceptT ε (Program Op Ret) α}
    {next : α → ExceptT ε (Program Op Ret) β} {value : α}
    (passes : first.run.eval exec state = (reached, .ok value)) :
    (first >>= next).run.eval exec state =
      (next value).run.eval exec reached := by
  change (first.run >>= _).eval exec state = _
  rw [eval_bind, passes]
  rfl

theorem eval_andThen_error {first : ExceptT ε (Program Op Ret) α}
    {next : α → ExceptT ε (Program Op Ret) β} {error : ε}
    (fails : first.run.eval exec state = (reached, .error error)) :
    (first >>= next).run.eval exec state = (reached, .error error) := by
  change (first.run >>= _).eval exec state = _
  rw [eval_bind, fails]
  rfl

theorem eval_lift (program : Program Op Ret α) :
    (ExceptT.lift program : ExceptT ε (Program Op Ret) α).run.eval exec
        state =
      ((program.eval exec state).1, .ok (program.eval exec state).2) := by
  change (program >>= _).eval exec state = _
  rw [eval_bind]
  rfl

theorem eval_only {allowed : Op → Prop} (keeps : State → State → Prop)
    (refl : ∀ state, keeps state state)
    (trans : ∀ {first second third}, keeps first second →
      keeps second third → keeps first third)
    (each : ∀ op state, allowed op → keeps state (exec op state).1)
    {program : Program Op Ret α} (only : program.Only allowed)
    (state : State) :
    keeps state (program.eval exec state).1 := by
  induction program generalizing state with
  | done value => exact refl state
  | call op rest induction =>
    exact trans (each op state only.1) (induction _ (only.2 _) _)

/-- A program that fails without harm. -/
def Fails (exec : (op : Op) → State → State × Ret op)
    (harmless : State → State → Prop)
    (program : ExceptT ε (Program Op Ret) α) (state : State) : Prop :=
  ∃ failed error, program.run.eval exec state = (failed, .error error) ∧
    harmless state failed

/-- Under a condition a program comes to a later point of itself, `rest` in the
state `reached`; otherwise it fails.  Either way the steps so far do no
harm. -/
structure Leads (exec : (op : Op) → State → State × Ret op)
    (harmless : State → State → Prop)
    (program : ExceptT ε (Program Op Ret) α) (state : State)
    (condition : Prop) (reached : State)
    (rest : ExceptT ε (Program Op Ret) α) : Prop where
  pass : condition →
    program.run.eval exec state = rest.run.eval exec reached ∧
      harmless state reached
  fail : ¬ condition → Fails exec harmless program state

/-- A check: a program that comes to its end, with a known value. -/
abbrev Passes (exec : (op : Op) → State → State × Ret op)
    (harmless : State → State → Prop)
    (program : ExceptT ε (Program Op Ret) α) (state : State)
    (condition : Prop) (reached : State) (value : α) : Prop :=
  Leads exec harmless program state condition reached (pure value)

section

variable {harmless weaker : State → State → Prop} {condition later : Prop}
  {first : ExceptT ε (Program Op Ret) α}
  {next : α → ExceptT ε (Program Op Ret) β}
  {program rest : ExceptT ε (Program Op Ret) β}
  {last : State} {value : α}

namespace Fails

theorem andThen (fails : Fails exec harmless first state) :
    Fails exec harmless (first >>= next) state := by
  obtain ⟨failed, error, outcome, kept⟩ := fails
  exact ⟨failed, error, eval_andThen_error outcome, kept⟩

theorem weaken (fails : Fails exec harmless program state)
    (implied : ∀ {before after}, harmless before after →
      weaker before after) :
    Fails exec weaker program state := by
  obtain ⟨failed, error, outcome, kept⟩ := fails
  exact ⟨failed, error, outcome, implied kept⟩

end Fails

namespace Leads

theorem here (refl : ∀ state, harmless state state) :
    Leads exec harmless program state True state program where
  pass _ := ⟨rfl, refl state⟩
  fail fails := absurd trivial fails

section

variable (trans : ∀ {first second third}, harmless first second → harmless
    second third → harmless first third)

include trans

section

variable (check : Passes exec harmless first state condition reached value)

include check

theorem fails (after : condition → Fails exec harmless (next value) reached) :
    Fails exec harmless (first >>= next) state := by
  by_cases holds : condition
  · obtain ⟨passes, kept⟩ := check.pass holds
    obtain ⟨failed, error, outcome, keptLater⟩ := after holds
    refine ⟨failed, error, ?_, trans kept keptLater⟩
    rw [eval_andThen_ok passes, outcome]
  · exact (check.fail holds).andThen

theorem step (after : condition →
      Leads exec harmless (next value) reached later last rest) :
    Leads exec harmless (first >>= next) state (condition ∧ later) last
      rest where
  pass := by
    intro ⟨holds, laterHolds⟩
    obtain ⟨passes, kept⟩ := check.pass holds
    obtain ⟨passesLater, keptLater⟩ := (after holds).pass laterHolds
    rw [eval_andThen_ok passes]
    exact ⟨passesLater, trans kept keptLater⟩
  fail unmet :=
    check.fails trans fun holds =>
      (after holds).fail fun laterHolds => unmet ⟨holds, laterHolds⟩

theorem stepEq {following : ExceptT ε (Program Op Ret) β}
    (same : next value = following) (after : condition →
      Leads exec harmless following reached later last rest) :
    Leads exec harmless (first >>= next) state (condition ∧ later) last
      rest :=
  check.step trans (same ▸ after)

end

end

theorem weaken
    (leads : Leads exec harmless program state condition reached rest)
    (implied : ∀ {before after}, harmless before after →
      weaker before after) :
    Leads exec weaker program state condition reached rest where
  pass holds := (leads.pass holds).imp_right implied
  fail unmet := (leads.fail unmet).weaken implied

theorem congr
    (leads : Leads exec harmless program state condition reached rest)
    (same : condition ↔ later) :
    Leads exec harmless program state later reached rest where
  pass holds := leads.pass (same.mpr holds)
  fail unmet := leads.fail fun holds => unmet (same.mp holds)

end Leads

end

end Program

namespace Protocol

variable {Op : Type} {Ret : Op → Type} {State Label α : Type}
  (protocol : Protocol Op Ret Label)
  (exec : (op : Op) → State → State × Ret op)

/-- The label that the run of a program reaches. -/
def along : Label → Program Op Ret α → State → Label
  | label, .done _, _ => label
  | label, .call op rest, state =>
    along (protocol.advance label op (exec op state).2)
      (rest (exec op state).2) (exec op state).1

theorem Follows.eval {protocol : Protocol Op Ret Label} {label : Label}
    {program : Program Op Ret α} {ends : α → Label → Prop}
    (follows : protocol.Follows label program ends)
    (keeps : Label → State → Prop)
    (each : ∀ label op state, protocol.allows label op → keeps label state →
      keeps (protocol.advance label op (exec op state).2) (exec op state).1)
    {state : State} (start : keeps label state) :
    ends (program.eval exec state).2
        (protocol.along exec label program state) ∧
      keeps (protocol.along exec label program state)
        (program.eval exec state).1 := by
  induction program generalizing label state with
  | done value => exact ⟨follows, start⟩
  | call op rest induction =>
    exact induction _ (follows.2 _) (each label op state follows.1 start)

end Protocol

/-- A state together with the outside inputs that are still to come. -/
structure Fed (State Input : Type) where
  state : State
  inputs : Nat → Input

namespace Fed

variable {Op : Type} {Ret : Op → Type} {State Input : Type}

/-- The inputs after the first `count`. -/
def skip (fed : Fed State Input) (count : Nat) : Fed State Input :=
  ⟨fed.state, fun position => fed.inputs (position + count)⟩

/-- Execute an operation under the first of the inputs. -/
def feed (exec : (op : Op) → Input → State → State × Ret op) (op : Op)
    (fed : Fed State Input) : Fed State Input × Ret op :=
  (⟨(exec op (fed.inputs 0) fed.state).1, (fed.skip 1).inputs⟩,
    (exec op (fed.inputs 0) fed.state).2)

theorem eval_inputs {α : Type} (holds : Input → Prop)
    (exec : (op : Op) → Input → State → State × Ret op)
    (program : Program Op Ret α) {fed : Fed State Input}
    (all : ∀ position, holds (fed.inputs position)) (position : Nat) :
    holds ((program.eval (feed exec) fed).1.inputs position) := by
  induction program generalizing fed with
  | done value => exact all position
  | call op rest induction =>
    exact induction _ fun later => all (later + 1)

end Fed

end OpenOxide.Concurrency
