import OpenOxide.Concurrency.Calls
import OpenOxide.Exec.ShellIR
import OpenOxide.Shell.Block

/-!
# Deferred nodes of a script

A deferred node is written as the function `_cleanup`, with the node's body, and
the line `trap _cleanup EXIT`.  A shell has one function of a name and one trap
at its exit, so a node reached later takes the place of the one before it.

A run carries out items of the written script, in its own shell and in those
that it forks.  Nothing is asked of the order, so that the runs of the shell are
among them.  A deferred node is known by the place of its function.
-/

namespace OpenOxide.Exec

open Shell Concurrency

/-- The program that a script is for the shell. -/
def program (script : List ShellIR) : List Item :=
  (parse (buildStr script)).getD []

def cleanupName : List Char :=
  ['_', 'c', 'l', 'e', 'a', 'n', 'u', 'p']

/-- The command `trap _cleanup EXIT`. -/
def trapCleanup : Simple :=
  { words := [plainWord ['t', 'r', 'a', 'p'], plainWord cleanupName,
      plainWord ['E', 'X', 'I', 'T']] }

/-- What an item does to the function and the trap of its shell. -/
inductive Effect where
  | define
  | trap
  /-- The function is called as a command. -/
  | call
  /-- A command that can set traps or functions of its own. -/
  | wild
  | none

def effect : Item → Effect
  | .function name => if name = cleanupName then .define else .none
  | .simple command =>
    if command = trapCleanup then .trap
    else
      match command.words.map literal with
      | [] => .none
      | some name :: _ =>
        if name = "_cleanup" then .call
        else if ["trap", "eval", ".", "source", "unset", "exec", "command",
          "builtin"].contains name then .wild
        else .none
      | _ => .wild
  | _ => .none

/-- What the shells of a run do with their traps. -/
inductive TrapStep where
  | carryOut (shell site : Nat)
  | fork (shell child : Nat)
  | exit (shell : Nat)

/-- What there is of deferred nodes in a run. -/
structure Traps where
  /-- The function `_cleanup` that a shell knows, by its place. -/
  defined : Nat → Option Nat := fun _ => none
  /-- The shells with a trap, and the node whose body is their `_cleanup`. -/
  pending : List (Nat × Nat) := []
  exited : List Nat := []
  reached : List Nat := []
  /-- The nodes whose bodies ran, one entry for each time. -/
  ran : List Nat := []

namespace Traps

def here (traps : Traps) (shell : Nat) : List (Nat × Nat) :=
  traps.pending.filter (·.1 == shell)

def elsewhere (traps : Traps) (shell : Nat) : List (Nat × Nat) :=
  traps.pending.filter (!·.1 == shell)

/-- What an item does.  A trap that is set while the shell's trap runs is never
called. -/
def act (traps : Traps) (shell site : Nat) : Effect → Traps
  | .define =>
    { traps with
      defined := Function.update traps.defined shell (some site)
      pending := (traps.here shell).map (fun _ => (shell, site)) ++
        traps.elsewhere shell }
  | .trap =>
    (traps.defined shell).elim traps fun node =>
      { traps with
        reached := node :: traps.reached
        pending := if shell ∈ traps.exited then traps.pending
          else (shell, node) :: traps.elsewhere shell }
  | .call => { traps with ran := (traps.defined shell).toList ++ traps.ran }
  | _ => traps

/-- The item takes no other node's place: the shell has no trap yet, or the same
node is reached once more. -/
def sparing (traps : Traps) (shell site : Nat) : Effect → Prop
  | .define => ∀ entry ∈ traps.here shell, entry = (shell, site)
  | .trap => ∀ node ∈ traps.defined shell, shell ∉ traps.exited ∧
      traps.here shell = if node ∈ traps.reached then [(shell, node)] else []
  | .call => traps.defined shell = none
  | .wild => False
  | .none => True

section Steps

variable (items : List Item)

def step (traps : Traps) : TrapStep → Traps
  | .carryOut shell site =>
    traps.act shell site ((items[site]?.map effect).getD .none)
  | .fork shell child =>
    { traps with
      defined := Function.update traps.defined child (traps.defined shell) }
  | .exit shell =>
    { traps with
      exited := shell :: traps.exited
      pending := traps.elsewhere shell
      ran := (traps.here shell).map Prod.snd ++ traps.ran }

/-- A forked shell is a new one, without a trap. -/
def spares (traps : Traps) : TrapStep → Prop
  | .carryOut shell site =>
    traps.sparing shell site ((items[site]?.map effect).getD .none)
  | .fork _ child => traps.here child = []
  | .exit _ => True

end Steps

instance (traps : Traps) (shell site : Nat) (effect : Effect) :
    Decidable (traps.sparing shell site effect) := by
  cases effect <;> unfold sparing <;> infer_instance

instance (items : List Item) (traps : Traps) (step : TrapStep) :
    Decidable (traps.spares items step) := by
  cases step <;> unfold spares <;> infer_instance

/-- The bodies that ran or will run at an exit. -/
def due (traps : Traps) : List Nat :=
  traps.ran ++ traps.pending.map Prod.snd

def Exact (traps : Traps) : Prop :=
  ∀ node, traps.due.count node = if node ∈ traps.reached then 1 else 0

theorem count_pending (traps : Traps) (shell node : Nat) :
    (traps.pending.map Prod.snd).count node =
      ((traps.here shell).map Prod.snd).count node +
        ((traps.elsewhere shell).map Prod.snd).count node := by
  have split := (List.filter_append_perm (·.1 == shell) traps.pending).map
    Prod.snd
  rw [← split.count_eq, List.map_append, List.count_append]
  rfl

theorem Exact.act {traps : Traps} (exact : traps.Exact) {shell site : Nat}
    (effect : Effect) (spared : traps.sparing shell site effect) :
    (traps.act shell site effect).Exact := by
  intro node
  have known := exact node
  cases effect with
  | define =>
    have same : (traps.here shell).map (fun _ => (shell, site)) =
        traps.here shell := by
      rw [List.map_congr_left fun entry member => (spared entry member).symm,
        List.map_id']
    rw [due, List.count_append, traps.count_pending shell] at known
    refine (List.count_append ..).trans (Eq.trans ?_ known)
    simp only [Traps.act, same, List.map_append, List.count_append]
  | trap =>
    cases found : traps.defined shell with
    | none => simpa [Traps.act, found] using known
    | some deferred =>
      obtain ⟨living, before⟩ := spared deferred found
      simp only [due, List.count_append, traps.count_pending shell, before]
        at known
      simp only [due, Traps.act, found, Option.elim_some, if_neg living,
        List.count_append, List.map_cons, List.count_cons, List.mem_cons]
      by_cases same : node = deferred
      · subst same
        by_cases again : node ∈ traps.reached <;>
          simp [again] at known ⊢ <;> omega
      · by_cases again : deferred ∈ traps.reached <;>
          simpa [again, same, Ne.symm same] using known
  | call =>
    have unknown : traps.defined shell = none := spared
    simpa [due, Traps.act, unknown] using known
  | wild => exact spared.elim
  | none => exact known

theorem Exact.step {items : List Item} {traps : Traps} (exact : traps.Exact)
    (event : TrapStep) (spared : traps.spares items event) :
    (traps.step items event).Exact := by
  cases event with
  | carryOut shell site => exact exact.act _ spared
  | fork shell child => exact exact
  | exit shell =>
    intro node
    have known := exact node
    rw [due, List.count_append, traps.count_pending shell] at known
    refine (List.count_append ..).trans (Eq.trans ?_ known)
    simp only [Traps.step, List.count_append]
    omega

end Traps

end OpenOxide.Exec
