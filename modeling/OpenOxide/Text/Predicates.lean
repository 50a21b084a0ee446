import Mathlib.Logic.Function.Iterate

/-!
# Predicate expressions

A text of calls with raw strings as arguments, combined by `!`, `&&`, `||` and
parentheses, is a predicate.  Negation binds before conjunction and conjunction
before disjunction.  The reader goes letter by letter and computes the
predicate on its way: a level for each open parenthesis, with the disjunction
so far, the conjunction so far and the negations that wait for an operand.  Raw
strings end at the next backquote and lose their carriage returns.
-/

namespace OpenOxide.Text.Predicates

structure Level (α : Type) where
  any : Option (α → Bool)
  all : Option (α → Bool)
  negations : Nat

/-- Where the reader is in an expression. -/
inductive Place where
  | operand
  | name (letters : List Char)
  | argument (name : List Char) (args : List (List Char))
  | raw (name : List Char) (args : List (List Char)) (letters : List Char)
  | separator (name : List Char) (args : List (List Char))
  | operator
  | ampersand
  | bar

structure Reader (α : Type) where
  place : Place
  level : Level α
  outer : List (Level α)

variable {α : Type}

def join (op : Bool → Bool → Bool) (left : Option (α → Bool))
    (right : α → Bool) : α → Bool :=
  left.elim right fun left item => op (left item) (right item)

namespace Level

def fresh : Level α := ⟨none, none, 0⟩

/-- An operand with its negations joins the conjunction. -/
def take (level : Level α) (value : α → Bool) : Level α :=
  ⟨level.any, some (join and level.all fun item =>
    not^[level.negations] (value item)), 0⟩

def value (level : Level α) : Option (α → Bool) :=
  level.all.map (join or level.any)

end Level

/-- What a call means for the items. -/
abbrev Matcher (α : Type) := List Char → List (List Char) → α → Bool

variable (matcher : Matcher α)

def step (reader : Reader α) (letter : Char) : Option (Reader α) :=
  let next := fun place => some { reader with place := place }
  match reader.place with
  | .operand =>
    if letter = ' ' then some reader
    else if letter = '!' then
      some { reader with level := { reader.level with
        negations := reader.level.negations + 1 } }
    else if letter = '(' then
      some ⟨.operand, .fresh, reader.level :: reader.outer⟩
    else if letter.isAlpha then next (.name [letter]) else none
  | .name letters =>
    if letter = '(' then next (.argument letters [])
    else if letter.isAlphanum then next (.name (letters ++ [letter]))
    else none
  | .argument name args =>
    if letter = ' ' then some reader
    else if letter = '\x60' then next (.raw name args []) else none
  | .raw name args letters =>
    if letter = '\x60' then next (.separator name (args ++ [letters]))
    else if letter = '\r' then some reader
    else next (.raw name args (letters ++ [letter]))
  | .separator name args =>
    if letter = ' ' then some reader
    else if letter = ',' then next (.argument name args)
    else if letter = ')' then
      some ⟨.operator, reader.level.take (matcher name args), reader.outer⟩
    else none
  | .operator =>
    if letter = ' ' then some reader
    else if letter = '&' then next .ampersand
    else if letter = '|' then next .bar
    else if letter = ')' then
      match reader.outer, reader.level.value with
      | level :: outer, some value =>
        some ⟨.operator, level.take value, outer⟩
      | _, _ => none
    else none
  | .ampersand => if letter = '&' then next .operand else none
  | .bar =>
    if letter = '|' then
      some ⟨.operand, ⟨reader.level.value, none, 0⟩, reader.outer⟩
    else none

def run (reader : Reader α) (text : List Char) : Option (Reader α) :=
  text.foldlM (step matcher) reader

def parse (text : List Char) : Option (α → Bool) :=
  (run matcher ⟨.operand, .fresh, []⟩ text).bind fun reader =>
    match reader.place, reader.outer with
    | .operator, [] => reader.level.value
    | _, _ => none

/-- From the level, the text is one operand of its conjunction. -/
def Reads (level : Level α) (text : List Char) (value : α → Bool) : Prop :=
  ∀ outer, run matcher ⟨.operand, level, outer⟩ text =
    some ⟨.operator, level.take value, outer⟩

/-- The text is an expression, at the beginning of any level. -/
def Complete (text : List Char) (value : α → Bool) : Prop :=
  ∀ outer, ∃ level, level.value = some value ∧
    run matcher ⟨.operand, .fresh, outer⟩ text = some ⟨.operator, level, outer⟩

variable {matcher} {level : Level α} {left right text : List Char}
  {value other : α → Bool}

theorem run_of_append {reader middle : Reader α}
    (first : run matcher reader left = some middle) :
    run matcher reader (left ++ right) = run matcher middle right := by
  rw [run, List.foldlM_append]
  change (run matcher reader left).bind _ = _
  rw [first]
  rfl

/-- Letters that a raw string keeps. -/
def isRaw (letters : List Char) : Bool :=
  letters.all fun letter => letter != '\x60' && letter != '\r'

theorem run_raw {name : List Char} {args : List (List Char)}
    {outer : List (Level α)} {letters : List Char}
    (raw : isRaw letters = true) (before : List Char) :
    run matcher ⟨.raw name args before, level, outer⟩ letters =
      some ⟨.raw name args (before ++ letters), level, outer⟩ := by
  induction letters generalizing before with
  | nil => simp [run]
  | cons letter letters induction =>
    simp only [isRaw, List.all_cons, Bool.and_eq_true, bne_iff_ne] at raw
    have here : run matcher ⟨.raw name args before, level, outer⟩ [letter] =
        some ⟨.raw name args (before ++ [letter]), level, outer⟩ := by
      simp [run, step, raw.1]
    rw [← List.singleton_append, run_of_append here, induction raw.2,
      List.append_assoc]

def quote (letters : List Char) : List Char :=
  '\x60' :: letters ++ ['\x60']

def arguments : List (List Char) → List Char
  | [] => []
  | [arg] => quote arg
  | arg :: args => quote arg ++ ", ".toList ++ arguments args

theorem run_arguments {name : List Char} {outer : List (Level α)}
    {args : List (List Char)} (some_args : args ≠ [])
    (raw : args.all isRaw = true) (before : List (List Char)) :
    run matcher ⟨.argument name before, level, outer⟩ (arguments args) =
      some ⟨.separator name (before ++ args), level, outer⟩ := by
  have quoted : ∀ before arg, isRaw arg = true →
      run matcher ⟨.argument name before, level, outer⟩ (quote arg) =
        some ⟨.separator name (before ++ [arg]), level, outer⟩ := by
    intro before arg raw
    change run matcher ⟨.raw name before [], level, outer⟩ (arg ++ _) = _
    rw [run_of_append (run_raw raw [])]
    rfl
  induction args generalizing before with
  | nil => exact absurd rfl some_args
  | cons arg args induction =>
    rw [List.all_cons, Bool.and_eq_true] at raw
    cases args with
    | nil => exact quoted before arg raw.1
    | cons next args =>
      have comma : run matcher
          ⟨.separator name (before ++ [arg]), level, outer⟩ ", ".toList =
          some ⟨.argument name (before ++ [arg]), level, outer⟩ := rfl
      rw [arguments, List.append_assoc,
        run_of_append (quoted before arg raw.1), run_of_append comma,
        induction (by simp) raw.2, List.append_assoc]
      · rfl
      · simp

theorem Complete.parse (complete : Complete matcher text value) :
    parse matcher text = some value := by
  obtain ⟨level, same, ran⟩ := complete []
  rw [Predicates.parse, ran]
  exact same

theorem Reads.complete (reads : Reads matcher .fresh text value) :
    Complete matcher text value :=
  fun outer => ⟨_, rfl, reads outer⟩

theorem Complete.parens (complete : Complete matcher text value) :
    Reads matcher level ('(' :: text ++ [')']) value := by
  intro outer
  obtain ⟨inner, same, ran⟩ := complete (level :: outer)
  change run matcher ⟨.operand, .fresh, level :: outer⟩ (text ++ [')']) = _
  rw [run_of_append ran]
  simp [run, step, same]

theorem Reads.and (plain : level.negations = 0)
    (first : Reads matcher level left value)
    (second : Reads matcher (level.take value) right other) :
    Reads matcher level (left ++ " && ".toList ++ right) fun item =>
      value item && other item := by
  intro outer
  have sign : run matcher ⟨.operator, level.take value, outer⟩
      " && ".toList = some ⟨.operand, level.take value, outer⟩ := rfl
  have same : (level.take value).take other =
      level.take fun item => value item && other item := by
    obtain ⟨any, all, negations⟩ := level
    obtain rfl : negations = 0 := plain
    cases all with
    | none => rfl
    | some before =>
      simp [Level.take, join, Bool.and_assoc]
  rw [List.append_assoc, run_of_append (first outer), run_of_append sign,
    second outer, same]

theorem Reads.or (first : Reads matcher .fresh left value)
    (second : Reads matcher ⟨some value, none, 0⟩ right other) :
    Complete matcher (left ++ " || ".toList ++ right) fun item =>
      value item || other item := by
  intro outer
  have sign : run matcher ⟨.operator, Level.fresh.take value, outer⟩
      " || ".toList = some ⟨.operand, ⟨some value, none, 0⟩, outer⟩ := rfl
  refine ⟨Level.take ⟨some value, none, 0⟩ other, rfl, ?_⟩
  rw [List.append_assoc, run_of_append (first outer), run_of_append sign]
  exact second outer

end OpenOxide.Text.Predicates
