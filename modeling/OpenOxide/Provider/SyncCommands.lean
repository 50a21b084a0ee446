import OpenOxide.Provider.Sync
import OpenOxide.Shell.Block

/-!
# The commands of a sync

The git commands of the script are joined from their arguments without quotes.
So they are the commands that were meant only when the path, the URL and the
branch are plain, and never when there are credentials, whose configuration has
blanks.
-/

namespace OpenOxide.Provider

open Shell Exec

namespace ProviderSyncBuilder

variable (paths : PathParent) (builder : ProviderSyncBuilder) (branch : String)

def gitSimple : Simple :=
  { words := [plainWord ['g', 'i', 't']] }

theorem gitSimple_invocation : gitSimple.invocation = some ⟨[], ["git"]⟩ := by
  decide +kernel

theorem read_indent (post : Post) (items : List Item) :
    read ⟨.plain false, []⟩ (post.machine items) [' ', ' ', ' ', ' '] =
      some (⟨.plain false, []⟩, post.machine items) :=
  rfl

theorem read_git (post : Post) (items : List Item) :
    read ⟨.plain false, []⟩ (post.machine items) ['g', 'i', 't', ' '] =
      some (⟨.plain false, []⟩,
        ⟨.command gitSimple, none, post.frames, items⟩) :=
  rfl

variable {args : List String}

theorem mem_of_spaced {letter : Char}
    (member : letter ∈ spaced (args.map String.toList))
    (other : letter ≠ ' ') : ∃ arg ∈ args, letter ∈ arg.toList := by
  induction args with
  | nil => cases member
  | cons arg args induction =>
    rw [List.map_cons, spaced_cons, List.mem_cons, List.mem_append]
      at member
    rcases member with blank | here | later
    · exact absurd blank other
    · exact ⟨arg, by simp, here⟩
    · obtain ⟨found, inside, known⟩ := induction later
      exact ⟨found, by simp [inside], known⟩

/-- Arguments that need no quotes. -/
def AllPlain (args : List String) : Prop :=
  ∀ arg ∈ args, isPlainArg arg = true

theorem isInner_of_isPlainArg {value : String}
    (plain : isPlainArg value = true) {letter : Char}
    (member : letter ∈ value.toList) : isInner letter = true := by
  simp only [isPlainArg, Bool.and_eq_true] at plain
  cases letters : value.toList with
  | nil =>
    rw [letters] at member
    cases member
  | cons first rest =>
    rw [letters, isWordText, Bool.and_eq_true, List.all_eq_true] at plain
    rw [letters] at member
    rcases List.mem_cons.mp member with rfl | later
    · exact isInner_of_isOrdinary plain.1.1.1
    · exact plain.1.1.2 letter later

theorem setIn_line {head : List Char} (single : '\n' ∉ head)
    (kept : head.getLast? ≠ some '\r') (text later rest : List Char) :
    ∃ line more, text ++ '\n' :: later = line ++ '\n' :: more ∧
      '\n' ∉ line ∧ line <+: text ∧
      setIn (head ++ text ++ '\n' :: later) ++ rest =
        [' ', ' ', ' ', ' '] ++ (head ++
          (Text.stripReturn line ++ '\n' :: (setIn more ++ rest))) := by
  obtain ⟨line, more, equal, alone, start⟩ := Text.exists_first_line text later
  refine ⟨line, more, equal, alone, start, ?_⟩
  rw [List.append_assoc, equal, ← List.append_assoc, setIn,
    Text.framed_cons _ _ (by simp [single, alone]),
    Text.stripReturn_append kept]
  simp [setIn]

theorem count_setIn_le {letter : Char} (noBlank : letter ≠ ' ')
    (noFeed : letter ≠ '\n') (text : List Char) :
    (setIn text).count letter ≤ text.count letter :=
  Text.count_framed_le (by simpa using noBlank) (by simpa using noFeed) text

theorem count_line {text later line more : List Char}
    (equal : text ++ '\n' :: later = line ++ '\n' :: more) {letter : Char}
    (noBlank : letter ≠ ' ') (noFeed : letter ≠ '\n') (rest : List Char) :
    (Text.stripReturn line ++ '\n' :: (setIn more ++ rest)).count letter ≤
      text.count letter + (later ++ rest).count letter := by
  have both := congrArg (List.count letter) equal
  have strip := Text.count_stripReturn_le letter line
  have indented := count_setIn_le noBlank noFeed more
  have feed : ∀ text : List Char,
      ('\n' :: text).count letter = text.count letter :=
    fun _ => List.count_cons_of_ne (by simpa using noFeed.symm)
  rw [List.count_append, List.count_append, feed, feed] at both
  rw [List.count_append, feed, List.count_append, List.count_append]
  omega

/-- The option before a path that begins with a dollar sign, and the sign. -/
def dollarOption : List Char :=
  ['-', 'c', ' ', 's', 'a', 'f', 'e', '.', 'd', 'i', 'r', 'e', 'c', 't', 'o',
    'r', 'y', '=', '$']

section Line

variable {post : Post} {items program : List Item}
  {first last : List Invocation}
  {later rest : List Char}
  (closed : ∀ letter, sumOf (Frame.total (letterOf letter)) post.frames = 0)
  (known : invocations items = some first)
  (all : invocations program = some (first ++ gitInvocation args :: last))

include closed known all

/-- A line with its raw arguments, the rest of the script being covered by its
values. -/
theorem plain_of_line (nonempty : args ≠ [])
    (complete : Completes ⟨.plain false, []⟩ (post.machine items)
      (setIn (gitLine args ++ '\n' :: later) ++ rest) program)
    (covers : Covers isReserved (later ++ rest)
      (last.flatMap Invocation.values))
    (ends : rest.getLast? = some '\n') :
    AllPlain args ∧ (gitLine args).getLast? ≠ some '\r' := by
  obtain ⟨arg, others, rfl⟩ := List.exists_cons_of_ne_nil nonempty
  have joined : gitLine (arg :: others) = ['g', 'i', 't', ' '] ++
      (arg.toList ++ spaced (others.map String.toList)) := by
    rfl
  have values : ∀ letter, letter ≠ ' ' →
      (arg.toList ++ spaced (others.map String.toList)).count letter =
        occurrences letter (arg :: others) := by
    intro letter noBlank
    have counted := count_spaced noBlank (arg :: others)
    rwa [List.map_cons, spaced_cons, List.count_cons_of_ne
      (by simpa using noBlank.symm)] at counted
  obtain ⟨line, more, equal, single, start, whole⟩ :=
    @setIn_line ['g', 'i', 't', ' '] (by simp) (by simp)
      (arg.toList ++ spaced (others.map String.toList)) later rest
  rw [joined, whole] at complete
  have here := (complete.after_read (read_indent post items)).after_read
    (read_git post items)
  have bounded : ∀ letter, isReserved letter = true →
      (Text.stripReturn line ++ '\n' :: (setIn more ++ rest)).count letter ≤
        occurrences letter (arg :: others) +
          budget letter (last.flatMap Invocation.values) := by
    intro letter reserved
    have noBlank : letter ≠ ' ' := by
      rintro rfl
      cases reserved
    have noFeed : letter ≠ '\n' := by
      rintro rfl
      cases reserved
    have lines := count_line equal noBlank noFeed rest
    have covered := covers letter reserved
    have counted := values letter noBlank
    omega
  have plain : AllPlain (arg :: others) := by
    refine plain_of_covers closed gitSimple_invocation known
      (by simp [gitSimple]) here all ?_ (bounded '\\' (by decide)) ?_ ?_
    · intro letter reserved
      have bound := bounded letter reserved
      rw [budget_append, budget]
      split <;> omega
    · intro member
      have inside := Text.mem_of_mem_takeWhile (by decide) member
      rw [occurrences, ← count_spaced (by decide)]
      exact List.count_pos_iff.mpr (List.mem_cons_of_mem _
        (start.subset (Text.mem_of_mem_stripReturn inside)))
    · intro last
      rw [List.getLast?_append, List.getLast?_cons, List.getLast?_append,
        ends] at last
      cases last
  refine ⟨plain, ?_⟩
  intro returned
  have oneLine : '\n' ∉ arg.toList ++ spaced (others.map String.toList) := by
    intro member
    have inside : '\n' ∈ spaced ((arg :: others).map String.toList) := by
      exact List.mem_cons_of_mem _ member
    obtain ⟨value, found, feed⟩ := mem_of_spaced inside (by decide)
    exact absurd (isInner_of_isPlainArg (plain value found) feed) (by decide)
  obtain ⟨rfl, rfl⟩ := Text.split_at_separator oneLine single equal
  have last : (arg.toList ++ spaced (others.map String.toList)).getLast? =
      some '\r' := by
    rw [joined, List.getLast?_append] at returned
    rcases Option.or_eq_some_iff.mp returned with last | ⟨_, blank⟩
    · exact last
    · cases blank
  have shorter := Text.count_return_lt last
  have needed := occurrences_le closed gitSimple_invocation known here all '\r'
  have indented := @count_setIn_le '\r' (by decide) (by decide) later
  have counted := values '\r' (by decide)
  have covered := covers '\r' (by decide)
  rw [budget, if_neg (by decide), List.count_append] at covered
  rw [occurrences_append, List.count_append, List.count_cons_of_ne
    (by decide), List.count_append] at needed
  omega

/-- A path that begins with a dollar sign loses it. -/
theorem dollar_of_line {given : List String}
    (arguments : args = builder.git.arguments given)
    (complete : Completes ⟨.plain false, []⟩ (post.machine items)
      (setIn (gitLine args ++ '\n' :: later) ++ rest) program)
    (covers : Covers (· == '$') (later ++ rest)
      (last.flatMap Invocation.values)) :
    builder.destination.toList.head? ≠ some '$' := by
  intro dollar
  obtain ⟨tail, letters⟩ := List.head?_eq_some_iff.mp dollar
  have joined : gitLine args = ['g', 'i', 't', ' '] ++ dollarOption ++
      (tail ++ spaced (("-C" :: builder.destination :: given).map
        String.toList)) := by
    simp [arguments, gitLine, git, GitCli.withRepository, GitCli.arguments,
      spaced_cons, letters, dollarOption]
  have counted : (gitLine args).count '$' = occurrences '$' args := by
    rw [gitLine, List.count_append, count_spaced (by decide)]
    exact Nat.zero_add _
  rw [joined, List.count_append] at counted
  obtain ⟨line, more, equal, -, -, whole⟩ := @setIn_line (['g', 'i', 't', ' ']
    ++ dollarOption) (by decide) (by decide) (tail ++ spaced
      (("-C" :: builder.destination :: given).map String.toList)) later rest
  rw [joined, whole, List.append_assoc] at complete
  have here := (complete.after_read (read_indent post items)).after_read
    (read_git post items)
  have fewer := count_lt_of_stop ⟨rfl, by simp⟩ here all rfl
  have balance : sumOf (Invocation.count '$')
      (first ++ gitInvocation args :: last) = _ :=
    @count_remaining _ _ _ _ _ _ _ args closed gitSimple_invocation known '$'
  have lines := @count_line _ _ _ _ equal '$' (by decide) (by decide) rest
  have covered := covers '$' rfl
  rw [balance, occurrences_append, List.count_append] at fewer
  rw [budget, if_neg (by decide)] at covered
  have sign : dollarOption.count '$' = 1 := by decide
  have git : (['g', 'i', 't', ' '] ++ dollarOption).count '$' = 1 := by decide
  omega

end Line

section Covering

variable {among : Char → Bool}
  (reserved : ∀ letter, among letter = true → isReserved letter = true)

include reserved

theorem covers_gitLine (args : List String) :
    Covers among (gitLine args) (gitInvocation args).values := by
  have values : ∀ args : List String,
      Covers among (spaced (args.map String.toList)) args := by
    intro args
    induction args with
    | nil => exact covers_template reserved rfl
    | cons arg args induction =>
      have raw : Covers among arg.toList [arg] := by
        intro letter _
        rw [budget_singleton]
        omega
      exact (@covers_template _ reserved [' '] rfl).append
        (raw.append induction)
  exact (covers_template reserved rfl).append ((values args).more ["git"])

/-- The commands after those of the first branch. -/
def remaining : List Invocation :=
  ((paths.parent builder.destination).map fun parent =>
    (⟨[], ["mkdir", "-p", parent]⟩ : Invocation)).toList ++
  (gitInvocation (builder.clone branch) ::
    if builder.submodules then
      [gitInvocation (builder.git.arguments builder.submoduleArgs)]
    else [])

section

variable (directory : ∀ parent, paths.parent builder.destination = some parent
    → Covers among (createDirectory parent).toList [parent])

include directory

theorem covers_closing :
    Covers among (builder.closing paths branch)
      ((builder.remaining paths branch).flatMap Invocation.values) := by
  have made : Covers among
      ((paths.parent builder.destination).elim [] fun parent =>
        (createDirectory parent).toList ++ ['\n'])
      (((paths.parent builder.destination).map fun parent =>
        (⟨[], ["mkdir", "-p", parent]⟩ : Invocation)).toList.flatMap
        Invocation.values) := by
    cases found : paths.parent builder.destination with
    | none => exact covers_template reserved rfl
    | some parent =>
      have covers := (directory parent found).append
        (@covers_template _ reserved ['\n'] rfl)
      exact covers.more ["mkdir", "-p"]
  have lines : Covers among (setIn (builder.elseText paths branch)) _ :=
    (made.append (covers_gitLine reserved (builder.clone branch))).framed
      reserved rfl rfl
  have ending : Covers among builder.submoduleText
      ((if builder.submodules then
          [gitInvocation (builder.git.arguments builder.submoduleArgs)]
        else []).flatMap Invocation.values) := by
    rw [submoduleText]
    split
    · have line := (@covers_template _ reserved ['\n'] rfl).append
        (covers_gitLine reserved
          (builder.git.arguments builder.submoduleArgs))
      rwa [List.flatMap_cons, List.flatMap_nil, List.append_nil]
    · exact covers_template reserved rfl
  have whole := (@covers_template _ reserved ['e', 'l', 's', 'e', '\n']
    rfl).append (lines.append ((@covers_template _ reserved ['f', 'i']
      rfl).append (ending.append (@covers_template _ reserved ['\n'] rfl))))
  rw [List.nil_append, List.nil_append, List.append_nil, List.append_assoc,
    ← List.flatMap_cons, ← List.flatMap_append] at whole
  exact whole

theorem covers_reset :
    Covers among (gitLine (builder.git.arguments reset) ++
        builder.closing paths branch)
      ((gitInvocation (builder.git.arguments reset) ::
        builder.remaining paths branch).flatMap Invocation.values) :=
  (covers_gitLine reserved _).append
    (builder.covers_closing paths branch reserved directory)

theorem covers_fetch :
    Covers among (gitLine (builder.git.arguments (builder.fetch branch)) ++
        '\n' :: gitLine (builder.git.arguments reset) ++
        builder.closing paths branch)
      ((gitInvocation (builder.git.arguments (builder.fetch branch)) ::
        gitInvocation (builder.git.arguments reset) ::
          builder.remaining paths branch).flatMap Invocation.values) := by
  rw [List.append_assoc, List.cons_append, List.flatMap_cons]
  exact (covers_gitLine reserved _).append
    ((@covers_template _ reserved ['\n'] rfl).append
      (builder.covers_reset paths branch reserved directory))

end

theorem covers_quoted_directory {path : String}
    (quoted : path.toList.head? ≠ some '$') :
    Covers among (createDirectory path).toList [path] := by
  rw [createDirectory_text, escapeArg, if_neg quoted, toList_shellSingleQuote]
  exact (covers_template reserved rfl).append (covers_quoted reserved path)

end Covering

theorem isReserved_of_dollar (letter : Char)
    (equal : (letter == '$') = true) : isReserved letter = true := by
  rw [beq_iff_eq] at equal
  subst equal
  rfl

theorem covers_dollar_directory (path : String) :
    Covers (· == '$') (createDirectory path).toList [path] := by
  by_cases quoted : path.toList.head? = some '$'
  · intro letter equal
    rw [beq_iff_eq] at equal
    subst equal
    rw [createDirectory_text, escapeArg, if_pos quoted, budget_singleton]
    simp
  · exact covers_quoted_directory isReserved_of_dollar quoted

/-- No credentials, and a path, a URL and a branch that are arguments without
quotes.  A carriage return at the end of a line is lost. -/
def isPlain : Bool :=
  builder.auth.isNone && isPlainArg builder.destination &&
    isPlainArg builder.url && isPlainArg branch &&
    builder.url.toList.getLast? != some '\r' &&
    branch.toList.getLast? != some '\r'

theorem assembles_git : Assembles [] "git" where
  names := by simp
  plain := by decide +kernel
  free := by decide +kernel
  word := by decide +kernel

section

variable (plain : AllPlain args)

include plain

theorem block_gitLine (post : Post) :
    Block post (gitLine args ++ ['\n']) ⟨.optional, post.frames⟩
      [gitInvocation args] :=
  block_assembled assembles_git plain .newline post

theorem feed_of_plain : '\n' ∉ gitLine args := by
  intro member
  rcases List.mem_append.mp member with inside | inside
  · exact absurd inside (by decide)
  · obtain ⟨value, found, feed⟩ := mem_of_spaced inside (by decide)
    exact absurd (isInner_of_isPlainArg (plain value found) feed) (by decide)

theorem setIn_gitLine
    (kept : (gitLine args).getLast? ≠ some '\r') (later rest : List Char) :
    setIn (gitLine args ++ '\n' :: later) ++ rest =
      [' ', ' ', ' ', ' '] ++ (gitLine args ++ ['\n']) ++
        (setIn later ++ rest) := by
  rw [setIn, Text.framed_cons _ _ (feed_of_plain plain),
    Text.stripReturn_of_ne kept, setIn]
  simp only [List.append_assoc]

theorem setIn_last : setIn (gitLine args) =
      [' ', ' ', ' ', ' '] ++ (gitLine args ++ ['\n']) := by
  rw [setIn, Text.framed_single _ _ (feed_of_plain plain) (by simp [gitLine]),
    List.append_assoc]

theorem block_setIn (post : Post) :
    Block post ([' ', ' ', ' ', ' '] ++ (gitLine args ++ ['\n']))
      ⟨.optional, post.frames⟩ [gitInvocation args] :=
  (block_indent post).then (block_gitLine plain post)

end

variable {value : String}

theorem getLast_gitLine (nonempty : value.toList ≠ []) (args : List String) :
    (gitLine (args ++ [value])).getLast? = value.toList.getLast? := by
  have text : gitLine (args ++ [value]) =
      gitLine args ++ ' ' :: value.toList := by
    simp [gitLine, spaced]
  rw [text, List.getLast?_append_of_ne_nil _ (by simp), List.getLast?_cons]
  cases last : value.toList.getLast? with
  | none => exact absurd (List.getLast?_eq_none_iff.mp last) nonempty
  | some letter => rfl

theorem nonempty_of_isPlainArg
    (plain : isPlainArg value = true) : value.toList ≠ [] := by
  intro empty
  rw [isPlainArg, empty] at plain
  cases plain

theorem setUrl_arguments : builder.git.arguments builder.setUrl =
    ["-c", "safe.directory=" ++ builder.destination, "-C",
      builder.destination, "remote", "set-url", "origin"] ++ [builder.url] :=
  rfl

theorem fetch_arguments : builder.git.arguments (builder.fetch branch) =
    (["-c", "safe.directory=" ++ builder.destination, "-C",
      builder.destination] ++ builder.authArgs ++
        ["fetch", "--prune", "origin"]) ++ [branch] := by
  rw [fetch_eq, GitCli.arguments]
  simp [git, GitCli.withRepository]

theorem intended_eq : builder.intended paths branch =
    [⟨[], ["set", "-e"]⟩,
      ⟨[], ["[", "-d", builder.destination ++ "/.git", "]"]⟩] ++
    gitInvocation (builder.git.arguments builder.setUrl) ::
      (gitInvocation (builder.git.arguments (builder.fetch branch)) ::
        gitInvocation (builder.git.arguments reset) ::
          builder.remaining paths branch) := by
  simp [intended, remaining]

/-- The condition of the script as it is written. -/
def directoryTest (destination : String) : Shell.Command :=
  ⟨bare "[", [.word (bare "-d"), .word (enclosed (destination ++ "/.git")),
    .word (bare "]")]⟩

theorem block_opening : Block {} builder.opening ⟨.required, [.ifThen]⟩
    [⟨[], ["set", "-e"]⟩,
      ⟨[], ["[", "-d", builder.destination ++ "/.git", "]"]⟩] := by
  have set : Block {} ['s', 'e', 't', ' ', '-', 'e', '\n'] {}
      [⟨[], ["set", "-e"]⟩] :=
    ⟨[.simple ⟨[], [plainWord ['s', 'e', 't'], plainWord ['-', 'e']], []⟩,
      .newline], fun _ => rfl, by decide +kernel⟩
  have sound : (directoryTest builder.destination).sound = true := by
    rfl
  have words : (directoryTest builder.destination).simple =
      ⟨[], [plainWord ['['], plainWord ['-', 'd'],
        (enclosed (builder.destination ++ "/.git")).word,
        plainWord [']']], []⟩ := by
    rfl
  have invoked : (directoryTest builder.destination).simple.invocation =
      some ⟨[], ["[", "-d", builder.destination ++ "/.git", "]"]⟩ := by
    have left : literal (plainWord ['[']) = some "[" := by decide +kernel
    have right : literal (plainWord [']']) = some "]" := by decide +kernel
    have option : literal (plainWord ['-', 'd']) = some "-d" := by
      decide +kernel
    rw [words, Simple.invocation, if_pos rfl]
    simp [left, right, option, enclosed, Arg.word, Segment.word]
  have condition := block_command sound invoked .semi
    ⟨.required, [.ifCond]⟩
  have text : builder.opening = ['s', 'e', 't', ' ', '-', 'e', '\n'] ++
      (['i', 'f', ' '] ++ ((directoryTest builder.destination).text ++
        Separator.semi.text ++ ['t', 'h', 'e', 'n', '\n'])) := by
    simp [opening, directoryTest, Command.text, Element.text, Arg.text, bare,
      enclosed, Segment.text, Separator.text]
  rw [text]
  exact set.append (.then ⟨_, span_if _ _, rfl⟩
    (condition.append ⟨_, span_then _, rfl⟩))

theorem isInertValue_of_isPlainArg
    (plain : isPlainArg value = true) : isInertValue value = true := by
  rw [isInertValue, Bool.and_eq_true, List.all_eq_true]
  refine ⟨fun letter member => isInner_of_isPlainArg plain member, ?_⟩
  simp only [isPlainArg, Bool.and_eq_true] at plain
  exact plain.1.2

theorem plain_gitArguments
    (destination : isPlainArg builder.destination = true)
    (plain : AllPlain args) : AllPlain (builder.git.arguments args) := by
  intro arg member
  have cases : arg = "-c" ∨ arg = "safe.directory=" ++ builder.destination ∨
      arg = "-C" ∨ arg = builder.destination ∨ arg ∈ args := by
    simpa [GitCli.arguments, git, GitCli.withRepository] using member
  rcases cases with rfl | rfl | rfl | rfl | inside
  · decide +kernel
  · rw [isPlainArg_append (by decide +kernel)]
    exact isInertValue_of_isPlainArg destination
  · decide +kernel
  · exact destination
  · exact plain arg inside

theorem parent_of_isPlainArg {parent : String}
    (destination : isPlainArg builder.destination = true)
    (found : paths.parent builder.destination = some parent) :
    '\n' ∉ parent.toList ∧ parent.toList.head? ≠ some '$' := by
  have inner : ∀ letter ∈ parent.toList, isInner letter = true :=
    fun letter member => isInner_of_isPlainArg destination
      ((paths.beginning _ found).subset member)
  constructor
  · intro feed
    exact absurd (inner _ feed) (by decide)
  · intro dollar
    exact absurd (inner _ (List.mem_of_mem_head? dollar)) (by decide)

/-- The directory as it is written. -/
def directoryCommand (path : String) : Shell.Command :=
  ⟨bare "mkdir", [.word (bare "-p"), .word (enclosed path)]⟩

theorem block_directory (path : String) (post : Post) :
    Block post (['m', 'k', 'd', 'i', 'r', ' ', '-', 'p', ' '] ++
        singleQuote path.toList ++ ['\n'])
      ⟨.optional, post.frames⟩ [⟨[], ["mkdir", "-p", path]⟩] := by
  have sound : (directoryCommand path).sound = true := by
    rfl
  have words : (directoryCommand path).simple =
      ⟨[], [plainWord ['m', 'k', 'd', 'i', 'r'], plainWord ['-', 'p'],
        (enclosed path).word], []⟩ := by
    rfl
  have invoked : (directoryCommand path).simple.invocation =
      some ⟨[], ["mkdir", "-p", path]⟩ := by
    have program : literal (plainWord ['m', 'k', 'd', 'i', 'r']) =
        some "mkdir" := by decide +kernel
    have option : literal (plainWord ['-', 'p']) = some "-p" := by
      decide +kernel
    rw [words, Simple.invocation, if_pos rfl]
    simp [program, option, enclosed, Arg.word, Segment.word]
  have text : ['m', 'k', 'd', 'i', 'r', ' ', '-', 'p', ' '] ++
      singleQuote path.toList = (directoryCommand path).text := by
    simp [directoryCommand, Command.text, Element.text, Arg.text, bare,
      enclosed, Segment.text]
  rw [text]
  exact block_command sound invoked .newline post

theorem block_elseBranch (destination : isPlainArg builder.destination = true)
    (plain : AllPlain (builder.clone branch)) (frames : List Frame) :
    Block ⟨.required, frames⟩ (setIn (builder.elseText paths branch))
      ⟨.optional, frames⟩
      (((paths.parent builder.destination).map fun parent =>
        (⟨[], ["mkdir", "-p", parent]⟩ : Invocation)).toList ++
          [gitInvocation (builder.clone branch)]) := by
  rw [elseText]
  cases found : paths.parent builder.destination with
  | none =>
    rw [Option.elim_none, List.nil_append, setIn_last plain]
    exact block_setIn plain _
  | some parent =>
    obtain ⟨noFeed, quoted⟩ :=
      builder.parent_of_isPlainArg paths destination found
    have single : '\n' ∉ ['m', 'k', 'd', 'i', 'r', ' ', '-', 'p', ' '] ++
        singleQuote parent.toList := by
      rw [List.mem_append, not_or]
      refine ⟨by decide, ?_⟩
      rw [← List.count_eq_zero, count_singleQuote (by decide),
        if_neg (by decide), List.count_eq_zero.mpr noFeed]
    have kept : (['m', 'k', 'd', 'i', 'r', ' ', '-', 'p', ' '] ++
        singleQuote parent.toList).getLast? ≠ some '\r' := by
      rw [singleQuote, ← List.append_assoc, List.getLast?_concat]
      decide
    have lines := Text.framed_cons [' ', ' ', ' ', ' '] ['\n'] single
      (gitLine (builder.clone branch))
    rw [Text.stripReturn_of_ne kept] at lines
    rw [Option.elim_some, createDirectory_text, escapeArg, if_neg quoted,
      toList_shellSingleQuote, List.append_assoc, List.singleton_append,
      setIn, lines]
    have last := setIn_last plain
    rw [setIn] at last
    rw [last, List.append_assoc [' ', ' ', ' ', ' ']]
    exact ((block_indent _).then (block_directory parent _)).append
      (block_setIn plain _)

/-- The script of plain values invokes what is meant. -/
theorem block_script (plain : builder.isPlain branch = true) :
    Block {} (builder.toScript paths branch).toList {}
      (builder.intended paths branch) := by
  simp only [isPlain, Bool.and_eq_true, Option.isNone_iff_eq_none,
    bne_iff_ne] at plain
  obtain ⟨⟨⟨⟨⟨auth, destination⟩, url⟩, named⟩, urlKept⟩, branchKept⟩ := plain
  have noArgs : builder.authArgs = [] := by
    rw [authArgs, auth]
    rfl
  have words : ["remote", "set-url", "origin", "fetch", "--prune", "reset",
      "--hard", "FETCH_HEAD", "clone", "--branch", "--single-branch",
      "submodule", "update", "--init", "--recursive"].all isPlainArg =
      true := by
    decide +kernel
  simp only [List.all_cons, List.all_nil, Bool.and_true, Bool.and_eq_true]
    at words
  have setPlain : AllPlain (builder.git.arguments builder.setUrl) :=
    builder.plain_gitArguments destination (List.all_eq_true.mp (by
      change (["remote", "set-url", "origin", builder.url].all _) = true
      simp [words, url]))
  have fetchPlain : AllPlain (builder.git.arguments (builder.fetch branch)) :=
    builder.plain_gitArguments destination (List.all_eq_true.mp (by
      simp [fetch_eq, noArgs, words, named]))
  have resetPlain : AllPlain (builder.git.arguments reset) :=
    builder.plain_gitArguments destination (List.all_eq_true.mp (by
      change (["reset", "--hard", "FETCH_HEAD"].all _) = true
      simp [words]))
  have clonePlain : AllPlain (builder.clone branch) :=
    List.all_eq_true.mp (by
      simp [clone_eq, noArgs, words, named, url, destination])
  have submodulePlain : AllPlain (builder.git.arguments builder.submoduleArgs) :=
    builder.plain_gitArguments destination (List.all_eq_true.mp (by
      simp [submoduleArgs_eq, noArgs, words]))
  have setKept : (gitLine (builder.git.arguments
      builder.setUrl)).getLast? ≠ some '\r' := by
    rw [setUrl_arguments, getLast_gitLine (nonempty_of_isPlainArg url)]
    exact urlKept
  have fetchKept : (gitLine (builder.git.arguments
      (builder.fetch branch))).getLast? ≠ some '\r' := by
    rw [fetch_arguments, getLast_gitLine (nonempty_of_isPlainArg named)]
    exact branchKept
  have ending : Block ⟨.optional, [.ifElse]⟩
      (['f', 'i'] ++ (builder.submoduleText ++ ['\n'])) {}
      (if builder.submodules then
        [gitInvocation (builder.git.arguments builder.submoduleArgs)]
      else []) := by
    rw [submoduleText]
    split
    · exact (block_fi []).then (block_gitLine submodulePlain _)
    · exact block_fi []
  rw [toScript_text, intended_eq, thenText,
    setIn_gitLine setPlain setKept, setIn_gitLine fetchPlain fetchKept,
    setIn_last resetPlain, closing, remaining]
  refine (builder.block_opening).append ?_
  refine (block_setIn setPlain _).append ?_
  refine (block_setIn fetchPlain _).append ?_
  refine (block_setIn resetPlain _).append ?_
  refine .then ⟨_, span_else [], rfl⟩ ?_
  have rest := (builder.block_elseBranch paths branch destination
    clonePlain [.ifElse]).append ending
  rwa [List.append_assoc] at rest

theorem blank_of_auth (auth : GitAuth) :
    isPlainArg (auth.toConfig.1 ++ "=" ++ auth.toConfig.2) = false := by
  rw [Bool.eq_false_iff]
  intro plain
  have blank : ' ' ∈ auth.toConfig.2.toList := by
    cases auth with
    | token value =>
      rw [GitAuth.toConfig]
      split <;> simp
    | sshKey keyPath => simp [GitAuth.toConfig]
  have inner := @isInner_of_isPlainArg _ plain ' ' (by simp [blank])
  cases inner

theorem plain_of_script
    (same : invocationsOf (builder.toScript paths branch) =
      some (builder.intended paths branch)) :
    builder.isPlain branch = true := by
  obtain ⟨program, parsed, all⟩ := Option.bind_eq_some_iff.mp same
  have complete := completes_of_parse parsed
  rw [toScript_text, thenText] at complete
  rw [intended_eq] at all
  obtain ⟨items, known, opened⟩ :=
    @Block.completes _ _ _ _ _ builder.block_opening [] program [] rfl complete
  have closed : ∀ letter, sumOf (Frame.total (letterOf letter))
      [Frame.ifThen] = 0 := fun _ => rfl
  have ends : (builder.closing paths branch).getLast? = some '\n' := by
    simp only [closing, ← List.append_assoc]
    exact List.getLast?_concat
  have undollared := builder.dollar_of_line closed known all rfl opened
    (builder.covers_fetch paths branch isReserved_of_dollar
      fun parent _ => covers_dollar_directory parent)
  have directory : ∀ parent, paths.parent builder.destination = some parent →
      Covers isReserved (createDirectory parent).toList [parent] := by
    intro parent found
    refine covers_quoted_directory (fun _ reserved => reserved) ?_
    intro dollar
    obtain ⟨rest, whole⟩ := paths.beginning _ found
    rw [← whole, List.head?_append, dollar] at undollared
    exact undollared rfl
  obtain ⟨setPlain, setKept⟩ := plain_of_line closed known all
    (by simp [setUrl_arguments]) opened (builder.covers_fetch paths branch
      (fun _ reserved => reserved) directory) ends
  rw [setIn_gitLine setPlain setKept] at opened
  obtain ⟨more, read, fetched⟩ :=
    (block_setIn setPlain ⟨.required, [.ifThen]⟩).completes known opened
  obtain ⟨fetchPlain, fetchKept⟩ := plain_of_line closed read all
    (by simp [fetch_arguments]) fetched (builder.covers_reset paths branch
      (fun _ reserved => reserved) directory) ends
  rw [setUrl_arguments] at setPlain setKept
  rw [fetch_arguments] at fetchPlain fetchKept
  have url := setPlain builder.url (by simp)
  have named := fetchPlain branch (by simp)
  rw [getLast_gitLine (nonempty_of_isPlainArg url)] at setKept
  rw [getLast_gitLine (nonempty_of_isPlainArg named)] at fetchKept
  have anonymous : builder.auth = none := by
    cases auth : builder.auth with
    | none => rfl
    | some auth' =>
      have plain := fetchPlain (auth'.toConfig.1 ++ "=" ++ auth'.toConfig.2)
        (by simp [authArgs, auth])
      rw [blank_of_auth] at plain
      cases plain
  have destination := setPlain builder.destination (by simp)
  simp [isPlain, anonymous, destination, url, named, setKept, fetchKept]

theorem sync_commands_iff_plain :
    invocationsOf (builder.toScript paths branch) =
        some (builder.intended paths branch) ↔
      builder.isPlain branch = true :=
  ⟨builder.plain_of_script paths branch, fun plain =>
    (builder.block_script paths branch plain).invocationsOf⟩

/-- The parent of the one path in use below. -/
def srvParent : PathParent where
  parent path := if path = "/srv/app" then some "/srv" else none
  beginning path result given := by
    split at given
    · rename_i same
      cases given
      rw [same]
      decide
    · cases given

/-- A token is split into words of the git command. -/
theorem sync_splits_token :
    invocationsOf (toScript srvParent
      { url := "https://host/app.git", destination := "/srv/app",
        auth := some (.token "secret") } "main") ≠
    some (intended srvParent
      { url := "https://host/app.git", destination := "/srv/app",
        auth := some (.token "secret") } "main") := by
  intro same
  have plain := plain_of_script _ _ _ same
  cases plain

end ProviderSyncBuilder

end OpenOxide.Provider
