import OpenOxide.Shell.Assembled
import OpenOxide.Text.Lines

/-!
# Values in a script of several commands

A script has its values as arguments only when those that stand without quotes
are plain.  A letter with a meaning is lost where it stands outside quotes, and
nothing else in the script can make up for it as long as the rest of the script
has no more of that letter than the values in it.
-/

namespace OpenOxide.Shell

def Invocation.values (invocation : Invocation) : List String :=
  invocation.env.map Prod.snd ++ invocation.argv

/-- How often a letter is in some values. -/
def occurrences (letter : Char) (values : List String) : Nat :=
  sumOf (fun value => value.toList.count letter) values

theorem occurrences_append (letter : Char) (left right : List String) :
    occurrences letter (left ++ right) =
      occurrences letter left + occurrences letter right :=
  sumOf_append _ left right

theorem count_eq_occurrences (letter : Char) (invocation : Invocation) :
    invocation.count letter = occurrences letter invocation.values := by
  rw [Invocation.values, occurrences_append, Invocation.count]
  simp [occurrences, sumOf, List.foldr_map]

theorem sumOf_count (letter : Char) (found : List Invocation) :
    sumOf (Invocation.count letter) found =
      occurrences letter (found.flatMap Invocation.values) := by
  induction found with
  | nil => rfl
  | cons invocation found induction =>
    rw [sumOf_cons, induction, List.flatMap_cons, occurrences_append,
      count_eq_occurrences]

/-- The letters that scripts have only in their values: a carriage return, and
those with a meaning that scripts make no use of. -/
def isReserved (letter : Char) : Bool :=
  letter == '\r' || !isLine letter && !isStop letter && letter != '\''

/-- How often values can bring a letter into a script.  A quote of a value can
bring a backslash. -/
def budget (letter : Char) (values : List String) : Nat :=
  occurrences letter values +
    if letter = '\\' then occurrences '\'' values else 0

theorem budget_append (letter : Char) (left right : List String) :
    budget letter (left ++ right) =
      budget letter left + budget letter right := by
  simp only [budget, occurrences_append]
  split <;> omega

/-- A text with no more of some letters than its values can bring. -/
def Covers (among : Char → Bool) (text : List Char)
    (values : List String) : Prop :=
  ∀ letter, among letter = true → text.count letter ≤ budget letter values

theorem Covers.append {among : Char → Bool} {left right : List Char}
    {first second : List String} (leftCovers : Covers among left first)
    (rightCovers : Covers among right second) :
    Covers among (left ++ right) (first ++ second) := by
  intro letter member
  have one := leftCovers letter member
  have two := rightCovers letter member
  rw [List.count_append, budget_append]
  omega

variable {values : List String} {letter : Char} {text : List Char}

theorem Covers.more {among : Char → Bool} (covers : Covers among text values)
    (others : List String) : Covers among text (others ++ values) := by
  intro letter member
  have bound := covers letter member
  rw [budget_append]
  omega

theorem budget_singleton (letter : Char) (value : String) :
    budget letter [value] = value.toList.count letter +
      if letter = '\\' then value.toList.count '\'' else 0 := by
  simp [budget, occurrences]

theorem count_singleQuote (other : letter ≠ '\'') (letters : List Char) :
    (singleQuote letters).count letter =
      letters.count letter +
        (if letter = '\\' then letters.count '\'' else 0) := by
  have escaped : (escapeQuotes letters).count letter =
      letters.count letter +
        (if letter = '\\' then letters.count '\'' else 0) := by
    induction letters with
    | nil => simp [escapeQuotes]
    | cons first letters induction =>
      rw [escapeQuotes_cons, List.count_append, induction]
      by_cases quote : first = '\''
      · subst quote
        by_cases slash : letter = '\\'
        · subst slash
          simp
          omega
        · simp [slash, other.symm, Ne.symm slash]
      · rw [if_neg quote]
        by_cases slash : letter = '\\'
        · simp [List.count_cons, quote]
          omega
        · simp [slash, List.count_cons]
          omega
  rw [singleQuote, List.cons_append,
    List.count_cons_of_ne (by simpa using other.symm), List.count_append,
    escaped, List.count_singleton]
  simp [other.symm]

/-- Text that is the same in every script. -/
def isTemplate (text : List Char) : Bool :=
  text.all fun letter => !isReserved letter

section Reserved

variable {among : Char → Bool}
  (known : ∀ letter, among letter = true → isReserved letter = true)

include known

theorem not_mem_template (template : isTemplate text = true)
    (member : among letter = true) : letter ∉ text := by
  intro inside
  have free := List.all_eq_true.mp template letter inside
  rw [known letter member] at free
  cases free

theorem covers_template {text : List Char}
    (template : isTemplate text = true) : Covers among text [] := by
  intro letter member
  rw [List.count_eq_zero.mpr (not_mem_template known template member)]
  exact Nat.zero_le _

theorem covers_quoted (value : String) :
    Covers among (singleQuote value.toList) [value] := by
  intro letter member
  have other : letter ≠ '\'' := by
    rintro rfl
    exact absurd (known _ member) (by decide)
  rw [budget_singleton, count_singleQuote other]

theorem Covers.framed {before after : List Char}
    (plainBefore : isTemplate before = true)
    (plainAfter : isTemplate after = true)
    (covers : Covers among text values) :
    Covers among (Text.framed before after text) values := by
  intro letter member
  exact (Text.count_framed_le (not_mem_template known plainBefore member)
    (not_mem_template known plainAfter member) text).trans
    (covers letter member)

end Reserved

theorem isStop_of_isLine (line : isLine letter = true) :
    isStop letter = false := by
  simp only [isStop, Bool.or_eq_false_iff, beq_eq_false_iff_ne]
  refine ⟨⟨?_, ?_⟩, ?_⟩ <;> rintro rfl <;> cases line

theorem takeWhile_stop {rest : List Char}
    (stop : text.dropWhile isLine = letter :: rest) :
    text.takeWhile (fun letter => !isStop letter) =
      text.takeWhile isLine ++
        (letter :: rest).takeWhile (fun letter => !isStop letter) := by
  have line : ∀ other ∈ text.takeWhile isLine, (!isStop other) = true := by
    intro other member
    rw [isStop_of_isLine (List.mem_takeWhile_imp member)]
    rfl
  conv => lhs; rw [← List.takeWhile_append_dropWhile (p := isLine) (l := text)]
  rw [List.takeWhile_append_of_pos line, stop]

theorem length_of_invocation {simple : Simple} {env : List (String × String)}
    {argv : List String} (here : simple.invocation = some ⟨env, argv⟩) :
    simple.words.length = argv.length := by
  rw [Simple.invocation] at here
  split at here
  next _ =>
    obtain ⟨assigns, -, here⟩ := Option.bind_eq_some_iff.mp here
    obtain ⟨values, literals, equal⟩ := Option.map_eq_some_iff.mp here
    obtain ⟨-, rfl⟩ := Invocation.mk.inj equal
    exact (Text.mapM_eq_some_iff.mp literals).length_eq
  next _ => cases here

section Arguments

variable {frames : List Frame} {items : List Item} {simple : Simple}
  {program : List Item} {first last : List Invocation}
  {env : List (String × String)} {head args : List String}

variable (closed : ∀ letter, sumOf (Frame.total (letterOf letter)) frames = 0)
  (here : simple.invocation = some ⟨env, head⟩)
  (read : invocations items = some first)

include closed here read

theorem count_remaining (letter : Char) :
    sumOf (Invocation.count letter)
        (first ++ ⟨env, head ++ args⟩ :: last) =
      Machine.total (letterOf letter)
          ⟨.command simple, none, frames, items⟩ +
        occurrences letter (args ++ last.flatMap Invocation.values) := by
  rw [Machine.total_mk, Place.total, Simple.total_of_invocation here,
    closed, total_of_invocations read, sumOf_append, sumOf_cons,
    occurrences_append, sumOf_count letter last]
  simp only [Invocation.count, sumOf_append, Option.elim_none, occurrences]
  omega

theorem occurrences_le
    (complete : Completes ⟨.plain false, []⟩
      ⟨.command simple, none, frames, items⟩ text program)
    (all : invocations program = some (first ++ ⟨env, head ++ args⟩ :: last))
    (letter : Char) :
    occurrences letter (args ++ last.flatMap Invocation.values) ≤
      text.count letter := by
  have bound := complete.total letter
  have counted := total_of_invocations all letter
  have kept := kept_events_le letter ⟨.plain false, []⟩ text
  rw [count_remaining closed here read] at counted
  simp only [credit] at kept
  omega

/-- Arguments without quotes in a script are plain, when the rest of the script
has nothing to make up for a letter that they lose. -/
theorem plain_of_covers (started : simple.words ≠ [])
    (complete : Completes ⟨.plain false, []⟩
      ⟨.command simple, none, frames, items⟩ text program)
    (all : invocations program = some (first ++ ⟨env, head ++ args⟩ :: last))
    (covers : Covers isReserved text (args ++ last.flatMap Invocation.values))
    (slashes : text.count '\\' ≤ occurrences '\\' args +
      budget '\\' (last.flatMap Invocation.values))
    (own : '\'' ∈ text.takeWhile (fun letter => !isStop letter) →
      0 < occurrences '\'' args)
    (final : text.getLast? = some '\\' → text.count '\\' ≤
      occurrences '\\' (args ++ last.flatMap Invocation.values)) :
    ∀ arg ∈ args, isPlainArg arg = true := by
  have bare : Scan.Bare ⟨.plain false, []⟩ := ⟨rfl, by simp⟩
  have balance := @count_remaining frames items simple first last env head
    args closed here read
  have doubles : KeepsDoubles ⟨.command simple, none, frames, items⟩ text
      (first ++ ⟨env, head ++ args⟩ :: last) := by
    have bound := covers '"' (by decide)
    rw [budget, if_neg (by decide)] at bound
    rw [KeepsDoubles, balance]
    omega
  have unquoted :
      '\'' ∉ text.takeWhile (fun letter => !isStop letter) := by
    intro member
    have some := own member
    have bound := quotes_le bare complete all doubles
    rw [balance, balance, occurrences_append, occurrences_append] at bound
    rw [budget, if_pos rfl] at slashes
    omega
  refine plain_arguments started complete ?_ (length_of_invocation here) read
    all
  intro letter member
  obtain ⟨rest, stop⟩ := List.head?_eq_some_iff.mp member
  by_contra unstopped
  rw [takeWhile_stop stop, List.takeWhile_cons_of_pos (by simp [unstopped])]
    at unquoted
  have fewer := count_lt_of_stop bare complete all stop
  rw [balance] at fewer
  by_cases quote : letter = '\''
  · subst quote
    exact unquoted (by simp)
  by_cases slash : letter = '\\'
  · subst slash
    cases rest with
    | nil =>
      have ends : text.getLast? = some '\\' := by
        rw [← List.takeWhile_append_dropWhile (p := isLine) (l := text), stop]
        simp
      have bound := final ends
      omega
    | cons next rest =>
      have other : next ≠ '\'' := by
        rintro rfl
        refine unquoted ?_
        rw [List.takeWhile_cons_of_pos (by decide)]
        simp
      have bound := quotes_lt bare complete all doubles other stop
      rw [balance, balance, occurrences_append, occurrences_append]
        at bound
      rw [budget, if_pos rfl] at slashes
      omega
  · have bound := covers letter (by
      simp [isReserved, isLine_of_stop stop, unstopped, quote])
    rw [budget, if_neg slash] at bound
    omega

end Arguments

theorem count_le_of_soleInvocation {text : String} {invocation : Invocation}
    (sole : soleInvocation text = some invocation) (letter : Char) :
    invocation.count letter ≤ text.toList.count letter := by
  rw [soleInvocation] at sole
  split at sole
  next simple parsed =>
    have complete := completes_of_parse parsed
    have all : invocations [.simple simple] = some [invocation] := by
      simp [invocations, sole]
    have bound := complete.total letter
    have counted := total_of_invocations all letter
    have kept := kept_events_le letter .start text.toList
    have empty : Machine.total (letterOf letter) .start = 0 := rfl
    have idle : credit letter Scan.start.mode = 0 := rfl
    rw [sumOf_cons, sumOf_nil] at counted
    rw [sumOf_cons, sumOf_nil] at bound
    rw [sumOf_cons, sumOf_nil] at counted
    omega
  next _ => cases sole

end OpenOxide.Shell
