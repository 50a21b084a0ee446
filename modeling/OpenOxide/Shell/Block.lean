import OpenOxide.Shell.Assembled

/-!
# Blocks of a script

A block is a piece of a script between two posts, places where a command may
begin.  What it invokes does not depend on what was read before it, so blocks
can be put one after another, and a script that is a block invokes what the
block does.
-/

namespace OpenOxide.Shell

/-- A place where a command may begin, with the compound commands that are
open. -/
structure Post where
  need : Need := .optional
  frames : List Frame := []

def Post.machine (post : Post) (items : List Item) : Machine :=
  ⟨.start post.need, none, post.frames, items⟩

/-- The text leads from one post to the other and is read as these items. -/
def Span (start : Post) (text : List Char) (stop : Post)
    (found : List Item) : Prop :=
  ∀ items, read ⟨.plain false, []⟩ (start.machine items) text =
    some (⟨.plain false, []⟩, stop.machine (items ++ found))

/-- The text leads from one post to the other and invokes what was found. -/
def Block (start : Post) (text : List Char) (stop : Post)
    (found : List Invocation) : Prop :=
  ∃ items, Span start text stop items ∧ invocations items = some found

section Append

variable {start middle stop : Post} {left right : List Char}

theorem Span.append {first second : List Item}
    (leftSpan : Span start left middle first)
    (rightSpan : Span middle right stop second) :
    Span start (left ++ right) stop (first ++ second) := by
  intro items
  rw [read_append_of_eq (leftSpan items), rightSpan, List.append_assoc]

theorem Block.append {first second : List Invocation}
    (leftBlock : Block start left middle first)
    (rightBlock : Block middle right stop second) :
    Block start (left ++ right) stop (first ++ second) := by
  obtain ⟨before, reading, found⟩ := leftBlock
  obtain ⟨more, rest, later⟩ := rightBlock
  refine ⟨before ++ more, reading.append rest, ?_⟩
  rw [invocations_append, found, later]
  rfl

theorem Block.then {found : List Invocation}
    (leftBlock : Block start left middle [])
    (rightBlock : Block middle right stop found) :
    Block start (left ++ right) stop found :=
  leftBlock.append rightBlock

end Append

theorem block_indent (post : Post) :
    Block post [' ', ' ', ' ', ' '] post [] :=
  ⟨[], fun items => by rw [List.append_nil]; rfl, rfl⟩

theorem span_command {command : Command} (sound : command.sound = true)
    (separator : Separator) (post : Post) :
    Span post (command.text ++ separator.text) ⟨separator.need, post.frames⟩
      [.simple command.simple, separator.item] := by
  intro items
  obtain ⟨next, reading, delivered⟩ :=
    Command.reads sound [] post.need post.frames items
  exact (read_append_of_eq reading _).trans (read_separator delivered separator)

theorem block_command {command : Command} (sound : command.sound = true)
    {invocation : Invocation}
    (invoked : command.simple.invocation = some invocation)
    (separator : Separator) (post : Post) :
    Block post (command.text ++ separator.text)
      ⟨separator.need, post.frames⟩ [invocation] := by
  refine ⟨_, span_command sound separator post, ?_⟩
  rw [invocations, invoked]
  cases separator <;> rfl

/-- A command with plain arguments and what ends it. -/
theorem block_assembled {env : List (String × String)} {program : String}
    {args : List String} (assembles : Assembles env program)
    (plain : ∀ arg ∈ args, isPlainArg arg = true) (separator : Separator)
    (post : Post) :
    Block post ((assembled env program).text ++
        spaced (args.map String.toList) ++ separator.text)
      ⟨separator.need, post.frames⟩ [⟨env, program :: args⟩] := by
  have every : ∀ arg ∈ program :: args, isPlainArg arg = true :=
    List.forall_mem_cons.mpr ⟨assembles.plain, plain⟩
  refine ⟨[.simple ⟨assigns env,
    (program :: args).map fun arg => plainWord arg.toList, []⟩,
    separator.item], ?_, ?_⟩
  · intro items
    obtain ⟨next, reading, delivered⟩ :=
      read_assembled assembles plain [] post.need post.frames items
    exact (read_append_of_eq reading _).trans
      (read_separator delivered separator)
  · rw [invocations, invocation_plain env every]
    cases separator <;> rfl

variable (need : Need) (frames : List Frame)

theorem span_if : Span ⟨need, frames⟩ ['i', 'f', ' ']
    ⟨.required, .ifCond :: frames⟩ [.keyword .ifWord] := by
  intro items
  cases need <;> rfl

theorem span_then : Span ⟨.optional, .ifCond :: frames⟩
    ['t', 'h', 'e', 'n', '\n'] ⟨.required, .ifThen :: frames⟩
    [.keyword .thenWord] :=
  fun _ => rfl

theorem span_else : Span ⟨.optional, .ifThen :: frames⟩
    ['e', 'l', 's', 'e', '\n'] ⟨.required, .ifElse :: frames⟩
    [.keyword .elseWord] :=
  fun _ => rfl

theorem block_fi : Block ⟨.optional, .ifElse :: frames⟩
    ['f', 'i', '\n'] ⟨.optional, frames⟩ [] :=
  ⟨[.keyword .fiWord, .newline],
    fun items => by rw [List.append_cons]; rfl, rfl⟩

theorem Block.invocationsOf {text : String} {found : List Invocation}
    (block : Block {} text.toList {} found) :
    invocationsOf text = some found := by
  obtain ⟨items, reading, invoked⟩ := block
  rw [Shell.invocationsOf, parse_of_read (reading [])]
  exact invoked

theorem Block.completes {start stop : Post} {text rest : List Char}
    {found : List Invocation} (block : Block start text stop found)
    {items program : List Item} {before : List Invocation}
    (known : invocations items = some before)
    (complete : Completes ⟨.plain false, []⟩ (start.machine items)
      (text ++ rest) program) :
    ∃ items, invocations items = some (before ++ found) ∧
      Completes ⟨.plain false, []⟩ (stop.machine items) rest program := by
  obtain ⟨more, reading, invoked⟩ := block
  refine ⟨items ++ more, ?_, complete.after_read (reading items)⟩
  rw [invocations_append, known, invoked]
  rfl

end OpenOxide.Shell
