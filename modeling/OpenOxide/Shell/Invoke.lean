import OpenOxide.Shell.Raw
import OpenOxide.Text.Readings

/-!
# What a program invokes

A program of plain commands invokes programs with arguments and an environment
that are fixed by its text.  One that also loops, defines functions, redirects
or substitutes does more than that, and has no list of invocations here.
-/

namespace OpenOxide.Shell

structure Invocation where
  env : List (String × String) := []
  argv : List String
deriving DecidableEq

def Value.literal : Value → Option String
  | .word text => Shell.literal text
  | .array _ => none

def assigned (entry : List Char × Value) : Option (String × String) :=
  entry.2.literal.map fun value => (String.ofList entry.1, value)

/-- The command as it is invoked, when nothing but its text decides that. -/
def Simple.invocation (simple : Simple) : Option Invocation :=
  if simple.redirections = [] then
    (simple.assigns.mapM assigned).bind fun env =>
      (simple.words.mapM literal).map fun argv => ⟨env, argv⟩
  else none

def invocations : List Item → Option (List Invocation)
  | [] => some []
  | .simple simple :: items =>
    simple.invocation.bind fun first =>
      (invocations items).map fun rest => first :: rest
  | .keyword _ :: items => invocations items
  | .op _ :: items => invocations items
  | .newline :: items => invocations items
  | _ :: _ => none

def invocationsOf (text : String) : Option (List Invocation) :=
  (parse text).bind invocations

/-- The invocation of a text that is one simple command. -/
def soleInvocation (text : String) : Option Invocation :=
  match parse text with
  | some [.simple simple] => simple.invocation
  | _ => none

theorem invocations_append (left right : List Item) :
    invocations (left ++ right) =
      (invocations left).bind fun first =>
        (invocations right).map fun rest => first ++ rest := by
  induction left with
  | nil => simp [invocations]
  | cons item left induction =>
    cases item with
    | simple simple =>
      simp only [List.cons_append, invocations, induction]
      cases simple.invocation <;> cases invocations left <;>
        cases invocations right <;> rfl
    | keyword | op | newline =>
      exact induction
    | _ => rfl

theorem invocation_of_items {before items : List Item} {simple : Simple}
    (stays : before ++ [.simple simple] <+: items)
    {first last : List Invocation} {next : Invocation}
    (read : invocations before = some first)
    (all : invocations items = some (first ++ next :: last)) :
    simple.invocation = some next := by
  obtain ⟨rest, rfl⟩ := stays
  rw [List.append_assoc, invocations_append, read, List.singleton_append]
    at all
  simp only [invocations, Option.bind_some, Option.map_eq_some_iff] at all
  obtain ⟨found, here, equal⟩ := all
  obtain ⟨other, this, more⟩ := Option.bind_eq_some_iff.mp here
  obtain ⟨tail, -, rfl⟩ := Option.map_eq_some_iff.mp more
  obtain ⟨rfl, -⟩ := List.cons.inj (List.append_cancel_left equal)
  exact this

def Invocation.count (letter : Char) (invocation : Invocation) : Nat :=
  sumOf (fun entry => entry.2.toList.count letter) invocation.env +
    sumOf (fun argument => argument.toList.count letter) invocation.argv

theorem total_of_literals {words : List Word} {values : List String}
    (same : words.mapM literal = some values) (letter : Char) :
    sumOf (Word.total (letterOf letter)) words =
      sumOf (fun value => value.toList.count letter) values := by
  have pairs := Text.mapM_eq_some_iff.mp same
  clear same
  induction pairs with
  | nil => rfl
  | cons first _ induction =>
    rw [sumOf_cons, sumOf_cons, total_of_literal first, induction]

theorem total_of_env {assigns : List (List Char × Value)}
    {env : List (String × String)}
    (same : assigns.mapM assigned = some env) (letter : Char) :
    sumOf (fun entry => entry.2.total (letterOf letter)) assigns =
      sumOf (fun entry => entry.2.toList.count letter) env := by
  have pairs := Text.mapM_eq_some_iff.mp same
  clear same
  induction pairs with
  | nil => rfl
  | @cons assign entry _ _ first _ induction =>
    obtain ⟨name, value⟩ := assign
    obtain ⟨letters, plain, rfl⟩ := Option.map_eq_some_iff.mp first
    rw [sumOf_cons, sumOf_cons, induction]
    cases value with
    | word word => rw [← total_of_literal plain letter]; rfl
    | array words => cases plain

theorem Simple.total_of_invocation {simple : Simple}
    {invocation : Invocation} (same : simple.invocation = some invocation)
    (letter : Char) :
    simple.total (letterOf letter) = invocation.count letter := by
  rw [Simple.invocation] at same
  split at same
  next none =>
    obtain ⟨env, assigns, same⟩ := Option.bind_eq_some_iff.mp same
    obtain ⟨argv, words, rfl⟩ := Option.map_eq_some_iff.mp same
    rw [Simple.total, none, total_of_literals words]
    rw [Invocation.count, ← total_of_env assigns letter]
    simp
  next _ => cases same

theorem total_of_invocations {items : List Item}
    {found : List Invocation} (same : invocations items = some found)
    (letter : Char) :
    sumOf (Item.total (letterOf letter)) items =
      sumOf (Invocation.count letter) found := by
  induction items generalizing found with
  | nil =>
    cases same
    rfl
  | cons item items induction =>
    cases item with
    | simple simple =>
      obtain ⟨first, here, more⟩ := Option.bind_eq_some_iff.mp same
      obtain ⟨rest, later, rfl⟩ := Option.map_eq_some_iff.mp more
      rw [sumOf_cons, sumOf_cons, Item.total,
        Simple.total_of_invocation here, induction later]
    | keyword | op | newline =>
      exact (Nat.zero_add _).trans (induction same)
    | _ => cases same

/-- Reading the rest of a text from here on ends with the program. -/
def Completes (scan : Scan) (machine : Machine) (text : List Char)
    (items : List Item) : Prop :=
  (machine.run (events scan text ++ finish (after scan text))).bind
    Machine.accept = some items

theorem completes_of_parse {text : String} {items : List Item}
    (parsed : parse text = some items) :
    Completes .start .start text.toList items :=
  parsed

theorem Completes.after_read {scan next : Scan} {machine middle : Machine}
    {left right : List Char} {items : List Item}
    (complete : Completes scan machine (left ++ right) items)
    (reading : read scan machine left = some (next, middle)) :
    Completes next middle right items := by
  rw [read, Option.map_eq_some_iff] at reading
  obtain ⟨ran, run, equal⟩ := reading
  obtain ⟨rfl, rfl⟩ := Prod.mk.injEq .. ▸ equal
  rw [Completes, events_append, after_append, List.append_assoc,
    Machine.run_append, run] at complete
  exact complete

theorem Completes.items {scan : Scan} {machine : Machine}
    {text : List Char} {items : List Item}
    (complete : Completes scan machine text items) :
    machine.items <+: items := by
  obtain ⟨last, ran, accepted⟩ := Option.bind_eq_some_iff.mp complete
  exact (run_items ran).trans (accept_items accepted)

theorem kept_finish (letter : Char) (scan : Scan) :
    kept letter (finish scan) = 0 := by
  unfold finish
  split
  next _ => rfl
  next _ => split <;> rfl

theorem Completes.total {scan : Scan} {machine : Machine}
    {text : List Char} {items : List Item}
    (complete : Completes scan machine text items) (letter : Char) :
    sumOf (Item.total (letterOf letter)) items ≤
      machine.total (letterOf letter) + kept letter (events scan text) := by
  obtain ⟨last, ran, accepted⟩ := Option.bind_eq_some_iff.mp complete
  have ends := (@accept_account (letterOf letter) _ _ accepted).2
  have bound := (@run_account (letterOf letter) _ _ _ ran).2
  have split : sumOf (Event.total (letterOf letter))
      (events scan text ++ finish (after scan text)) =
      kept letter (events scan text) := by
    rw [sumOf_append]
    change _ + kept letter (finish (after scan text)) = _
    rw [kept_finish, Nat.add_zero]
    rfl
  omega

end OpenOxide.Shell
